/-
Deleting a LUI and rewriting its low parts are one decision, taken at several relocations.
`_bfd_riscv_relax_lui` decides from the address and the rest of the symbol, gp and the alignments; the
decisions agree as long as the loop passes the rest of the right symbol, which it does not for
functions.
-/
import RiscvBinutils.Bfd.Relax

namespace RiscvBinutils.Bfd

open RiscvBinutils.Base RiscvBinutils.Opcode

/-! ## The range test -/

theorem validItypeImm_iff_toNat (x : Vma) :
    validItypeImm x = true ↔ x.toNat < 2048 ∨ 2 ^ 64 - 2048 ≤ x.toNat := by
  rw [validItypeImm_iff, BitVec.toInt_eq_toNat_cond]
  omega

/-- In range of x0 exactly when the high part is zero. -/
theorem validItypeImm_iff_constHighPart (x : Vma) : validItypeImm x = true ↔ constHighPart x = 0 := by
  rw [validItypeImm_iff_toNat, ← BitVec.toNat_inj, constHighPart_toNat]
  have hx := x.isLt
  have hz : (0 : Vma).toNat = 0 := rfl
  rw [hz]
  omega

theorem inGpRange_iff (undefinedWeak : Bool) (v gp align reserve : Vma) :
    inGpRange undefinedWeak v gp align reserve = true ↔
      undefinedWeak = true ∨ validItypeImm v = true ∨
        (gp.toNat ≤ v.toNat ∧ validItypeImm (v - gp + align + reserve) = true) ∨
        (v.toNat < gp.toNat ∧ validItypeImm (v - gp - align - reserve) = true) := by
  simp only [inGpRange, Bool.or_eq_true, Bool.and_eq_true, decide_eq_true_eq, BitVec.le_def, BitVec.lt_def, or_assoc]

/-- Moving towards the end of a symbol keeps the reference in range: what the address gains, the rest
of the symbol loses. -/
theorem inGpRange_of_le {undefinedWeak : Bool} {v v' gp align reserve reserve' : Vma}
    (h : inGpRange undefinedWeak v gp align reserve = true) (hle : v.toNat ≤ v'.toNat)
    (hsum : v'.toNat + reserve'.toNat = v.toNat + reserve.toNat) (hend : v.toNat + reserve.toNat < 2 ^ 64)
    (hgp : gp.toNat + align.toNat + reserve.toNat + 2048 ≤ 2 ^ 64)
    (hhigh : constHighPart v = constHighPart v') : inGpRange undefinedWeak v' gp align reserve' = true := by
  rw [inGpRange_iff] at h ⊢
  rcases h with h | h | ⟨hge, h⟩ | ⟨hlt, h⟩
  · exact .inl h
  · rw [validItypeImm_iff_constHighPart, hhigh] at h
    exact .inr (.inl ((validItypeImm_iff_constHighPart v').mpr h))
  · -- above gp: the end of the symbol is what counts, and it is the same
    refine .inr (.inr (.inl ⟨by omega, ?_⟩))
    have heq : v' - gp + align + reserve' = v - gp + align + reserve := by
      apply BitVec.eq_of_toNat_eq
      simp only [BitVec.toNat_add, BitVec.toNat_sub]
      omega
    rwa [heq]
  · -- below gp, without wrapping around: the distance and all that is added to it is at most 2048
    have hfar : (v - gp - align - reserve).toNat =
        2 ^ 64 - (gp.toNat - v.toNat + align.toNat + reserve.toNat) := by
      simp only [BitVec.toNat_sub]
      omega
    rw [validItypeImm_iff_toNat, hfar] at h
    by_cases hcross : v'.toNat < gp.toNat
    · have hnear : (v' - gp - align - reserve').toNat =
          2 ^ 64 - (gp.toNat - v'.toNat + align.toNat + reserve'.toNat) := by
        simp only [BitVec.toNat_sub]
        omega
      refine .inr (.inr (.inr ⟨hcross, ?_⟩))
      rw [validItypeImm_iff_toNat, hnear]
      omega
    · have hnear : (v' - gp + align + reserve').toNat =
          v'.toNat - gp.toNat + align.toNat + reserve'.toNat := by
        simp only [BitVec.toNat_add, BitVec.toNat_sub]
        omega
      refine .inr (.inr (.inl ⟨by omega, ?_⟩))
      rw [validItypeImm_iff_toNat, hnear]
      omega

/-! ## Symbols whose size the loop looks at -/

/-- `st_size`, or the size of the hash entry. -/
def Input.symSize (inp : Input) (sym : Nat) : Vma :=
  match inp.locals[sym]? with
  | some isym => isym.size
  | none => ((inp.globalEntry sym).map (·.size)).getD 0

/-- The symbol as `relaxSymbol` finds it, when it is not a local symbol of the undefined section. -/
def symbolOf (link : Link) (inp : Input) (func : RelaxFunc) (sym : Nat) : Option RelaxSym :=
  match inp.locals[sym]? with
  | some isym =>
    if isym.type = .gnuIfunc then none
    else some { symSec := inp.elfSections isym.shndx, symval := isym.value, symtype := isym.type }
  | none => (inp.globalEntry sym).bind (globalRelaxSym link func)

/-- The loop sets `reserve_size` anew for this symbol, and takes its own address: it is no global
function, and no local symbol without a section. -/
structure Sized (inp : Input) (sym : Nat) : Prop where
  defined : ∀ isym, inp.locals[sym]? = some isym → isym.shndx ≠ 0
  notFunc : ∀ h, inp.locals[sym]? = none → inp.globalEntry sym = some h → h.type ≠ .func

section

variable {link : Link} {inp : Input} {func : RelaxFunc} {rel : Rela}

variable (link func) in
/-- For a sized symbol, what the loop finds does not depend on what it found before. -/
theorem relaxSymbol_of_sized (h : Sized inp rel.sym) (reserve : Vma) :
    (relaxSymbol link inp func rel reserve).1 = symbolOf link inp func rel.sym ∧
      ((symbolOf link inp func rel.sym).isSome →
        (relaxSymbol link inp func rel reserve).2 = reserveOf (inp.symSize rel.sym) rel.addend) := by
  unfold relaxSymbol symbolOf Input.symSize
  cases hl : inp.locals[rel.sym]? with
  | some isym =>
    have hdef := h.defined isym hl
    simp only [localRelaxSym, hdef, if_false]
    exact ⟨trivial, fun _ => trivial⟩
  | none =>
    cases hg : inp.globalEntry rel.sym with
    | none => simp
    | some e =>
      have hfunc := h.notFunc e hl hg
      cases hs : globalRelaxSym link func e with
      | none => simp [hs]
      | some s => simp [hs, hfunc]

/-- The decision of `_bfd_riscv_relax_lui` for `sym + addend`: a function of the symbol's address and
size, gp, and the alignments. -/
def luiDecision (link : Link) (inp : Input) (maxAlignment cache : Vma) (sym : Nat) (addend : Vma) : Bool :=
  match symbolOf link inp .lui sym with
  | none => false
  | some s =>
    let target := symbolAddress link s addend
    inGpRange s.undefinedWeak target.2 (relaxGpValue link)
      (gpAlignment link target.1 s.undefinedWeak maxAlignment cache).1 (reserveOf (inp.symSize sym) addend)

/-- What a low part becomes. -/
def gprelOf : RelocType → RelocType
  | .lo12S | .pcrelLo12S => .gprelS
  | _ => .gprelI

variable {maxAlignment cache : Vma} {st : PassState} {next : Rela}

/-- A low part against a sized symbol. -/
theorem relaxPair_lo (hc : CacheOk link cache st) (h : Sized inp rel.sym)
    (htype : rel.type = .lo12I ∨ rel.type = .lo12S) :
    (relaxPair link inp maxAlignment .lui st rel next).rel =
      if luiDecision link inp maxAlignment cache rel.sym rel.addend then rel.setType (gprelOf rel.type) else rel := by
  obtain ⟨hsym, hreserve⟩ := relaxSymbol_of_sized link .lui h st.reserveSize
  unfold relaxPair luiDecision
  dsimp only
  rw [hsym]
  cases hs : symbolOf link inp .lui rel.sym with
  | none => rfl
  | some s =>
    rw [hs] at hreserve
    have halign := (hc.gpAlignment (symbolAddress link s rel.addend).1 s.undefinedWeak maxAlignment).1
    have hnolui : canRelaxCLui link inp (symbolAddress link s rel.addend).2 rel = false := by
      rcases htype with ht | ht <;> simp [canRelaxCLui, ht]
    simp only [applyRelaxFunc, bfdRiscvRelaxLui, hreserve rfl, halign, hnolui]
    split
    · rcases htype with ht | ht <;> simp [ht, gprelOf]
    · rfl

/-- A LUI against a sized symbol. -/
theorem relaxPair_hi (hc : CacheOk link cache st) (h : Sized inp rel.sym) (htype : rel.type = .hi20) :
    (relaxPair link inp maxAlignment .lui st rel next).rel.type = .delete ↔
      luiDecision link inp maxAlignment cache rel.sym rel.addend = true := by
  obtain ⟨hsym, hreserve⟩ := relaxSymbol_of_sized link .lui h st.reserveSize
  unfold relaxPair luiDecision
  dsimp only
  rw [hsym]
  cases hs : symbolOf link inp .lui rel.sym with
  | none => simp [htype]
  | some s =>
    rw [hs] at hreserve
    have halign := (hc.gpAlignment (symbolAddress link s rel.addend).1 s.undefinedWeak maxAlignment).1
    simp only [applyRelaxFunc, bfdRiscvRelaxLui, hreserve rfl, halign]
    split
    · rename_i hin
      simp [hin, htype, riscvRelaxDeletePiecewise]
    · rename_i hin
      simp only [hin]
      split
      · unfold relaxCLui
        dsimp only
        split <;> simp [htype, Rela.setType]
      · simp [htype]

end

/-! ## The whole pass -/

/-- The address of a symbol, before any addend. -/
def symbolBase (link : Link) (inp : Input) (func : RelaxFunc) (sym : Nat) : Nat × Vma :=
  match symbolOf link inp func sym with
  | none => (0, 0)
  | some s => symbolAddress link s 0

/-- When the decisions for one symbol agree: it is sized, not the section symbol of a merged section, and
neither it nor gp lies so close to the end of the address space that the test wraps around. -/
structure LuiSafe (link : Link) (inp : Input) (maxAlignment cache : Vma) (sym : Nat) : Prop where
  sized : Sized inp sym
  plain : ∀ s, symbolOf link inp .lui sym = some s →
    ¬ ((link.sections s.symSec).infoMerge ∧ (link.sections s.symSec).merge ∧ s.symtype = .section)
  noWrap : (symbolBase link inp .lui sym).2.toNat + (inp.symSize sym).toNat < 2 ^ 64
  gpRoom : ∀ s, symbolOf link inp .lui sym = some s → (relaxGpValue link).toNat +
    (gpAlignment link (symbolAddress link s 0).1 s.undefinedWeak maxAlignment cache).1.toNat +
    (inp.symSize sym).toNat + 2048 ≤ 2 ^ 64

theorem symbolAddress_addend {link : Link} {s : RelaxSym} (addend : Vma)
    (h : ¬ ((link.sections s.symSec).infoMerge ∧ (link.sections s.symSec).merge ∧ s.symtype = .section)) :
    symbolAddress link s addend = ((symbolAddress link s 0).1, (symbolAddress link s 0).2 + addend) := by
  unfold symbolAddress
  dsimp only
  split
  · rename_i hm
    have hns : s.symtype ≠ .section := fun hs => h ⟨hm.1, hm.2, hs⟩
    simp only [if_neg hns, Prod.mk.injEq, true_and]
    bv_omega
  · simp only [Prod.mk.injEq, true_and]
    bv_omega

theorem reserveOf_toNat {size addend : Vma} (h : addend.toNat ≤ size.toNat) :
    (reserveOf size addend).toNat = size.toNat - addend.toNat := by
  have hsub : (size - addend).toNat = size.toNat - addend.toNat := by
    rw [BitVec.toNat_sub]
    omega
  rw [reserveOf, if_neg (by rw [BitVec.lt_def, hsub]; omega), hsub]

/-- A LUI that is in range has its low parts in range. -/
theorem luiDecision_mono {link : Link} {inp : Input} {maxAlignment cache : Vma} {sym : Nat} {a b : Vma}
    (hsafe : LuiSafe link inp maxAlignment cache sym) (hab : a.toNat ≤ b.toNat)
    (hsz : b.toNat ≤ (inp.symSize sym).toNat)
    (hhigh : constHighPart ((symbolBase link inp .lui sym).2 + a) =
      constHighPart ((symbolBase link inp .lui sym).2 + b))
    (h : luiDecision link inp maxAlignment cache sym a = true) :
    luiDecision link inp maxAlignment cache sym b = true := by
  have hwrap := hsafe.noWrap
  unfold luiDecision at h ⊢
  unfold symbolBase at hhigh hwrap
  cases hs : symbolOf link inp .lui sym with
  | none => rw [hs] at h; exact absurd h (by simp)
  | some s =>
    rw [hs] at h hhigh hwrap
    have hroom := hsafe.gpRoom s hs
    have hplain := hsafe.plain s hs
    dsimp only at h hhigh hwrap ⊢
    rw [symbolAddress_addend a hplain] at h
    rw [symbolAddress_addend b hplain]
    have ha := reserveOf_toNat (hab.trans hsz)
    have hb := reserveOf_toNat hsz
    refine inGpRange_of_le h ?_ ?_ ?_ ?_ hhigh
    all_goals
      simp only [BitVec.toNat_add, ha, hb]
      omega

section Pass

variable (link : Link) (inp : Input) (maxAlignment : Vma) (st : PassState) (relocs : List Rela)

/-- For a safe symbol the LUI is deleted, and each low part rewritten, exactly when the decision says so;
and when a LUI is deleted, so is rewritten every low part of the same symbol and high part, whatever
stands between them. -/
theorem relaxLui_all_or_nothing {i j : Nat} {hi lo : Rela} (hhi : RelaxMarked relocs i hi)
    (hlo : RelaxMarked relocs j lo) (hthi : hi.type = .hi20) (htlo : lo.type = .lo12I ∨ lo.type = .lo12S)
    (hsym : lo.sym = hi.sym) (hsafe : LuiSafe link inp maxAlignment st.maxAlignmentForGp hi.sym)
    (hab : hi.addend.toNat ≤ lo.addend.toNat) (hsz : lo.addend.toNat ≤ (inp.symSize hi.sym).toNat)
    (hhigh : constHighPart ((symbolBase link inp .lui hi.sym).2 + hi.addend) =
      constHighPart ((symbolBase link inp .lui hi.sym).2 + lo.addend)) :
    ((relaxRelocs link inp maxAlignment st relocs).2[i]?.map (·.type) = some .delete ↔
        luiDecision link inp maxAlignment st.maxAlignmentForGp hi.sym hi.addend = true) ∧
      (relaxRelocs link inp maxAlignment st relocs).2[j]? =
        some (if luiDecision link inp maxAlignment st.maxAlignmentForGp hi.sym lo.addend
          then lo.setType (gprelOf lo.type) else lo) ∧
      ((relaxRelocs link inp maxAlignment st relocs).2[i]?.map (·.type) = some .delete →
        (relaxRelocs link inp maxAlignment st relocs).2[j]? = some (lo.setType (gprelOf lo.type))) := by
  have hfhi : relaxFuncOf link hi.type = some .lui := by rw [hthi]; rfl
  have hflo : relaxFuncOf link lo.type = some .lui := by rcases htlo with h | h <;> (rw [h]; rfl)
  obtain ⟨hgeti, nexti, hnexti, hfi⟩ := hhi.pair hfhi
  obtain ⟨hgetj, nextj, hnextj, hfj⟩ := hlo.pair hflo
  have hdeli : (relaxRelocs link inp maxAlignment st relocs).2[i]?.map (·.type) = some .delete ↔
      luiDecision link inp maxAlignment st.maxAlignmentForGp hi.sym hi.addend = true := by
    rw [relaxRelocs_getElem? hgeti hnexti hfi, Option.map_some, Option.some.injEq]
    exact relaxPair_hi (cacheOk_stateAt link inp maxAlignment st relocs i) hsafe.sized hthi
  have hdecj : (relaxRelocs link inp maxAlignment st relocs).2[j]? =
      some (if luiDecision link inp maxAlignment st.maxAlignmentForGp hi.sym lo.addend
        then lo.setType (gprelOf lo.type) else lo) := by
    rw [relaxRelocs_getElem? hgetj hnextj hfj,
      relaxPair_lo (cacheOk_stateAt link inp maxAlignment st relocs j) (hsym ▸ hsafe.sized) htlo, hsym]
  refine ⟨hdeli, hdecj, fun hdel => ?_⟩
  rw [hdecj, if_pos (luiDecision_mono hsafe hab hsz hhigh (hdeli.mp hdel))]

end Pass

/-! ## Functions

A function keeps the `reserve_size` of the symbol before it. -/

/-- Two sections: the code at 0x1000, and data at 0x10000 with gp at 0x10800. -/
def luiLink : Link where
  xlen := .rv64
  sections := fun n => { output := some n }
  outputs := fun n => { vma := if n = 0 then 0x1000 else 0x10000, size := 0x2000, alignmentPower := 3 }
  ownerSections := [0, 1]
  absOutput := 9
  undSection := 9
  splt := 9
  gpSymbol := some (1, 0x800)

/-- `f` is a function 0x100 bytes above gp, `buf` an object of 4096 bytes, `x` one of 8 bytes. -/
def luiInput : Input where
  sec := 0
  elfSections := id
  locals := [⟨0, 0, 0, .notype⟩]
  symHashes := [0, 1, 2]
  hashes :=
    [{ rootType := .defined, defSection := some 1, defValue := 0x900, size := 8, type := .func },
     { rootType := .defined, defSection := some 1, defValue := 0, size := 0x1000, type := .object },
     { rootType := .defined, defSection := some 1, defValue := 0x820, size := 8, type := .object }]

/-- `lui %hi(f)`, `lui %hi(buf)`, `lw %lo(f)`, each marked for relaxation. -/
def luiStale : List Rela :=
  [⟨0, 1, .hi20, 0⟩, ⟨0, 0, .relax, 0⟩, ⟨4, 2, .hi20, 0⟩, ⟨4, 0, .relax, 0⟩, ⟨8, 1, .lo12I, 0⟩, ⟨8, 0, .relax, 0⟩]

/-- The LUI of `f` is deleted, its low part is left with the register nobody sets: between the two, the
loop saw `buf` and kept its size. -/
theorem luiStale_lo_kept :
    (relaxRelocs luiLink luiInput 8 { contents := List.replicate 12 0 } luiStale).2[0]? =
        some ⟨0, 0, .delete, 4⟩ ∧
      (relaxRelocs luiLink luiInput 8 { contents := List.replicate 12 0 } luiStale).2[4]? =
        some ⟨8, 1, .lo12I, 0⟩ := by
  decide

/-- `lui %hi(x)` and `sw %lo(x+4)` around the LUI of `buf`. -/
def luiObject : List Rela :=
  [⟨0, 3, .hi20, 0⟩, ⟨0, 0, .relax, 0⟩, ⟨4, 2, .hi20, 0⟩, ⟨4, 0, .relax, 0⟩, ⟨8, 3, .lo12S, 4⟩, ⟨8, 0, .relax, 0⟩]

theorem luiObject_both :
    (relaxRelocs luiLink luiInput 8 { contents := List.replicate 12 0 } luiObject).2[0]?.map (·.type) =
        some .delete ∧
      (relaxRelocs luiLink luiInput 8 { contents := List.replicate 12 0 } luiObject).2[4]? =
        some ⟨8, 3, .gprelS, 4⟩ := by
  have hhi : RelaxMarked luiObject 0 ⟨0, 3, .hi20, 0⟩ := ⟨rfl, ⟨0, 0, .relax, 0⟩, rfl, rfl, rfl⟩
  have hlo : RelaxMarked luiObject 4 ⟨8, 3, .lo12S, 4⟩ := ⟨rfl, ⟨8, 0, .relax, 0⟩, rfl, rfl, rfl⟩
  have h := relaxLui_all_or_nothing luiLink luiInput 8 { contents := List.replicate 12 0 } luiObject
    hhi hlo rfl (.inr rfl) rfl
    ⟨⟨by rintro isym ⟨⟩, by rintro h - ⟨⟩; decide⟩, by rintro s ⟨⟩; decide, by decide, by rintro s ⟨⟩; decide⟩
    (by decide) (by decide) (by decide)
  have hdel := h.1.mpr (by decide)
  exact ⟨hdel, h.2.2 hdel⟩

end RiscvBinutils.Bfd
