/-
Deleting an AUIPC and rewriting its low parts.
A low part is found through the records of the high parts already deleted; a high part whose low part
came first is not deleted.  The range test of the low part takes the address from the high part, but
the reserve from the low part's own label, so the two tests agree only when that reserve is not larger.
-/
import RiscvBinutils.Bfd.RelaxLui

namespace RiscvBinutils.Bfd

open RiscvBinutils.Base RiscvBinutils.Opcode

/-! ## The records grow -/

section Records

variable {link : Link} {inp : Input} {maxAlignment : Vma}

theorem bfdRiscvRelaxCall_pcgp (args : RelaxArgs) (st : PassState) (rel next : Rela) :
    (bfdRiscvRelaxCall link inp args st rel next).st.pcgp = st.pcgp := by
  unfold bfdRiscvRelaxCall
  dsimp only
  split <;> rfl

theorem bfdRiscvRelaxTlsLe_pcgp (args : RelaxArgs) (st : PassState) (rel next : Rela) :
    (bfdRiscvRelaxTlsLe link args st rel next).st.pcgp = st.pcgp := by
  unfold bfdRiscvRelaxTlsLe
  split
  · rfl
  · split <;> rfl

theorem bfdRiscvRelaxLui_pcgp (args : RelaxArgs) (st : PassState) (rel next : Rela) :
    (bfdRiscvRelaxLui link inp args st rel next).st.pcgp = st.pcgp := by
  unfold bfdRiscvRelaxLui relaxCLui
  dsimp only
  split
  · split <;> rfl
  · split
    · split <;> rfl
    · rfl

/-- What one relocation does to the records. -/
inductive PcgpStep (rel : Rela) (p : PcgpRelocs) : PcgpRelocs → Prop
  | same : PcgpStep rel p p
  | lo (hiSecOff : Vma) : PcgpStep rel p (riscvRecordPcgpLoReloc p hiSecOff)
  | hi (rec : PcgpHiReloc) (h : rec.hiSecOff = rel.offset) (htype : rel.type ≠ .pcrelLo12I ∧ rel.type ≠ .pcrelLo12S) :
      PcgpStep rel p (riscvRecordPcgpHiReloc p rec)

theorem relaxPcLo_step (args : RelaxArgs) (st : PassState) (rel next : Rela) (type : RelocType) :
    PcgpStep rel st.pcgp (relaxPcLo link args st rel next type).st.pcgp := by
  unfold relaxPcLo
  dsimp only
  split
  · exact .lo _
  · split <;> exact .same

theorem relaxPcHi_step (args : RelaxArgs) (st : PassState) (rel next : Rela)
    (htype : rel.type ≠ .pcrelLo12I ∧ rel.type ≠ .pcrelLo12S) :
    PcgpStep rel st.pcgp (relaxPcHi link args st rel next).st.pcgp := by
  unfold relaxPcHi
  dsimp only
  split
  · exact .same
  · split
    · exact .same
    · split
      · exact .hi _ rfl htype
      · exact .same

variable (link) in
theorem bfdRiscvRelaxPc_step (args : RelaxArgs) (st : PassState) (rel next : Rela) :
    PcgpStep rel st.pcgp (bfdRiscvRelaxPc link args st rel next).st.pcgp := by
  rw [bfdRiscvRelaxPc]
  split
  · exact relaxPcLo_step ..
  · exact relaxPcLo_step ..
  · rename_i h1 h2
    exact relaxPcHi_step _ _ _ _ ⟨h1, h2⟩

variable (link inp maxAlignment) in
/-- Only `_bfd_riscv_relax_pc` touches the records. -/
theorem relaxPair_step (func : RelaxFunc) (st : PassState) (rel next : Rela) :
    (relaxPair link inp maxAlignment func st rel next).st.pcgp = st.pcgp ∨
      func = .pc ∧ PcgpStep rel st.pcgp (relaxPair link inp maxAlignment func st rel next).st.pcgp := by
  unfold relaxPair
  dsimp only
  split
  · exact .inl rfl
  · cases func with
    | call => exact .inl (by rw [applyRelaxFunc, bfdRiscvRelaxCall_pcgp])
    | lui => exact .inl (by rw [applyRelaxFunc, bfdRiscvRelaxLui_pcgp])
    | tlsLe => exact .inl (by rw [applyRelaxFunc, bfdRiscvRelaxTlsLe_pcgp])
    | pc =>
      refine .inr ⟨rfl, ?_⟩
      rw [applyRelaxFunc]
      exact bfdRiscvRelaxPc_step link _
        { st with reserveSize := (relaxSymbol link inp .pc rel st.reserveSize).2 } rel next

theorem relaxFuncOf_pc {type : RelocType} (h : relaxFuncOf link type = some .pc) :
    type = .pcrelHi20 ∨ type = .pcrelLo12I ∨ type = .pcrelLo12S := by
  cases type <;> simp [relaxFuncOf] at h ⊢

variable {st : PassState} {relocs : List Rela}

variable (link inp maxAlignment st relocs) in
/-- From one position to the next, the records stay, or gain one entry. -/
theorem stateAt_pcgp_step (k : Nat) :
    (stateAt link inp maxAlignment st relocs (k + 1)).pcgp = (stateAt link inp maxAlignment st relocs k).pcgp ∨
      (∃ off, (stateAt link inp maxAlignment st relocs (k + 1)).pcgp =
        riscvRecordPcgpLoReloc (stateAt link inp maxAlignment st relocs k).pcgp off) ∨
      ∃ rel rec, RelaxMarked relocs k rel ∧ rel.type = .pcrelHi20 ∧ rec.hiSecOff = rel.offset ∧
        (stateAt link inp maxAlignment st relocs (k + 1)).pcgp =
          riscvRecordPcgpHiReloc (stateAt link inp maxAlignment st relocs k).pcgp rec := by
  by_cases hpair : ∃ rel next func, relocs[k]? = some rel ∧ relocs[k + 1]? = some next ∧
      relaxFuncFor link rel next = some func
  · obtain ⟨rel, next, func, hrel, hnext, hf⟩ := hpair
    obtain ⟨hrelax, hoff, hfunc⟩ := relaxFuncFor_eq_some hf
    rw [stateAt_pair hrel hnext hf]
    rcases relaxPair_step link inp maxAlignment func
      (stateAt link inp maxAlignment st relocs k) rel next with h | ⟨rfl, h⟩
    · exact .inl h
    · generalize (relaxPair link inp maxAlignment .pc (stateAt link inp maxAlignment st relocs k) rel next).st.pcgp =
        p' at h
      cases h with
      | same => exact .inl rfl
      | lo off => exact .inr (.inl ⟨off, rfl⟩)
      | hi rec heq htype =>
        refine .inr (.inr ⟨rel, rec, ⟨hrel, next, hnext, hrelax, hoff⟩, ?_, heq, rfl⟩)
        rcases relaxFuncOf_pc hfunc with h | h | h
        · exact h
        · exact absurd h htype.1
        · exact absurd h htype.2
  · refine .inl (congrArg PassState.pcgp (stateAt_skip fun rel next hrel hnext => ?_))
    cases hf : relaxFuncFor link rel next with
    | none => rfl
    | some func => exact absurd ⟨rel, next, func, hrel, hnext, hf⟩ hpair

/-- Once a low part has been recorded, it stays recorded. -/
theorem stateAt_lo_mono {H : Vma} {j : Nat}
    (h : riscvFindPcgpLoReloc (stateAt link inp maxAlignment st relocs j).pcgp H = true) :
    ∀ {k : Nat}, j ≤ k → riscvFindPcgpLoReloc (stateAt link inp maxAlignment st relocs k).pcgp H = true := by
  intro k hjk
  induction hjk with
  | refl => exact h
  | step _ ih =>
    rename_i k _
    rcases stateAt_pcgp_step link inp maxAlignment st relocs k with heq | ⟨off, heq⟩ | ⟨rel, rec, -, -, -, heq⟩
    · rw [heq]; exact ih
    · rw [heq]
      simp only [riscvFindPcgpLoReloc, riscvRecordPcgpLoReloc, List.any_cons, Bool.or_eq_true]
      exact .inr ih
    · rw [heq]; exact ih

section Unique

variable {H : Vma} {i : Nat}

variable (link inp maxAlignment) in
/-- Before the only high part at `H` there is no record for `H`. -/
theorem stateAt_hi_fresh (hstart : st.pcgp.hi = [])
    (huniq : ∀ (k : Nat) (rel : Rela), RelaxMarked relocs k rel → rel.type = .pcrelHi20 → rel.offset = H → k = i) :
    ∀ k ≤ i, riscvFindPcgpHiReloc (stateAt link inp maxAlignment st relocs k).pcgp H = none := by
  intro k hk
  induction k with
  | zero => simp [stateAt, riscvFindPcgpHiReloc, hstart]
  | succ k ih =>
    have ih := ih (by omega)
    rcases stateAt_pcgp_step link inp maxAlignment st relocs k with heq | ⟨off, heq⟩ |
      ⟨rel, rec, hmark, htype, hoff, heq⟩
    · rw [heq]; exact ih
    · rw [heq]; exact ih
    · have hne : ¬ rec.hiSecOff = H := by
        intro hH
        have := huniq k rel hmark htype (hoff ▸ hH)
        omega
      rw [heq, riscvFindPcgpHiReloc, riscvRecordPcgpHiReloc]
      simpa [hne, riscvFindPcgpHiReloc] using ih

/-- After it, the record stays the one that is found. -/
theorem stateAt_hi_found {rec : PcgpHiReloc}
    (huniq : ∀ (k : Nat) (rel : Rela), RelaxMarked relocs k rel → rel.type = .pcrelHi20 → rel.offset = H → k = i)
    (h : riscvFindPcgpHiReloc (stateAt link inp maxAlignment st relocs (i + 1)).pcgp H = some rec) :
    ∀ {k : Nat}, i + 1 ≤ k → riscvFindPcgpHiReloc (stateAt link inp maxAlignment st relocs k).pcgp H = some rec := by
  intro k hk
  induction hk with
  | refl => exact h
  | step hle ih =>
    rename_i k
    have hk : i + 1 ≤ k := hle
    rcases stateAt_pcgp_step link inp maxAlignment st relocs k with heq | ⟨off, heq⟩ |
      ⟨rel, rec', hmark, htype, hoff, heq⟩
    · rw [heq]; exact ih
    · rw [heq]; exact ih
    · have hne : ¬ rec'.hiSecOff = H := by
        intro hH
        have := huniq k rel hmark htype (hoff ▸ hH)
        omega
      rw [heq, riscvFindPcgpHiReloc, riscvRecordPcgpHiReloc]
      simpa [hne, riscvFindPcgpHiReloc] using ih

end Unique

end Records

/-! ## High and low part -/

/-- The symbol of the low part is a label on the instruction at offset `H` of the section. -/
def Designates (inp : Input) (sym : Nat) (H : Vma) : Prop :=
  match inp.locals[sym]? with
  | some isym => isym.shndx ≠ 0 ∧ inp.elfSections isym.shndx = inp.sec ∧ isym.value = H
  | none => ∃ h, inp.globalEntry sym = some h ∧ (h.rootType = .defined ∨ h.rootType = .defweak) ∧
      h.defSection = some inp.sec ∧ h.defValue = H

/-- `STT_*` of a symbol. -/
def Input.symType (inp : Input) (sym : Nat) : SymType :=
  match inp.locals[sym]? with
  | some isym => isym.type
  | none => ((inp.globalEntry sym).map (·.type)).getD .notype

/-- The section being relaxed is an ordinary one of the link. -/
structure PlainSection (link : Link) (inp : Input) : Prop where
  output : (link.sections inp.sec).output.isSome
  notMerged : ¬ ((link.sections inp.sec).infoMerge ∧ (link.sections inp.sec).merge)

section Parts

variable {link : Link} {inp : Input} {maxAlignment cache : Vma} {st : PassState} {rel next : Rela}

/-- The lookup of the symbol does not depend on the reserve size, only the reserve size it returns does. -/
theorem relaxSymbol_fst (func : RelaxFunc) (r r' : Vma) :
    (relaxSymbol link inp func rel r).1 = (relaxSymbol link inp func rel r').1 := by
  unfold relaxSymbol
  split
  · rfl
  · split
    · rfl
    · split <;> rfl

/-- A label on `H` leads the low part to the records for `H`. -/
theorem Designates.symbol {H : Vma} (h : Designates inp rel.sym H) (hpic : link.pic = false)
    (hplain : PlainSection link inp) (hifunc : inp.symType rel.sym ≠ .gnuIfunc) :
    ∃ s, symbolOf link inp .pc rel.sym = some s ∧ s.symSec = inp.sec ∧ s.symval = H := by
  unfold Designates at h
  unfold Input.symType at hifunc
  unfold symbolOf
  cases hl : inp.locals[rel.sym]? with
  | some isym =>
    rw [hl] at h hifunc
    obtain ⟨-, hsec, hval⟩ := h
    exact ⟨{ symSec := inp.elfSections isym.shndx, symval := isym.value, symtype := isym.type },
      if_neg hifunc, hsec, hval⟩
  | none =>
    rw [hl] at h hifunc
    obtain ⟨e, he, hdef, hsec, hval⟩ := h
    rw [he] at hifunc ⊢
    have hnu : ¬ e.rootType = .undefweak := by rcases hdef with hd | hd <;> simp [hd]
    refine ⟨{ symSec := inp.sec, symval := e.defValue, symtype := e.type }, ?_, rfl, hval⟩
    have hty : ¬ e.type = .gnuIfunc := by simpa using hifunc
    simp [globalRelaxSym, hty, hpic, hnu, hdef, hsec, hplain.output]

variable (maxAlignment st next) in
/-- The low part, against a label that reserves `reserve` bytes. -/
theorem relaxPair_pcLo {H : Vma} (hd : Designates inp rel.sym H) (hpic : link.pic = false)
    (hplain : PlainSection link inp) (hifunc : inp.symType rel.sym ≠ .gnuIfunc) (hsized : Sized inp rel.sym)
    (htype : rel.type = .pcrelLo12I ∨ rel.type = .pcrelLo12S) :
    relaxPair link inp maxAlignment .pc st rel next =
      match riscvFindPcgpHiReloc st.pcgp H with
      | none =>
        { st := { st with
            reserveSize := reserveOf (inp.symSize rel.sym) rel.addend
            pcgp := riscvRecordPcgpLoReloc st.pcgp H }
          rel, next }
      | some hi =>
        let align := gpAlignment link hi.symSec hi.undefinedWeak maxAlignment st.maxAlignmentForGp
        let reserve := reserveOf (inp.symSize rel.sym) rel.addend
        { st := { st with reserveSize := reserve, maxAlignmentForGp := align.2 }
          rel :=
            if inGpRange hi.undefinedWeak hi.hiAddr (relaxGpValue link) align.1 reserve
            then { rel with sym := hi.hiSym, type := gprelOf rel.type, addend := rel.addend + hi.hiAddend } else rel
          next } := by
  obtain ⟨s, hs, hsec, hval⟩ := hd.symbol hpic hplain hifunc
  obtain ⟨hsym, hreserve⟩ := relaxSymbol_of_sized link .pc hsized st.reserveSize
  rw [hs] at hsym hreserve
  have haddr : symbolAddress link s rel.addend = (inp.sec, H + rel.addend + link.secAddr inp.sec) := by
    rw [symbolAddress, hsec, if_neg hplain.notMerged, hval]
  have hoff : H + rel.addend + link.secAddr inp.sec - link.secAddr inp.sec - rel.addend = H := by
    bv_omega
  have hpc : ∀ type, gprelOf rel.type = type → bfdRiscvRelaxPc link
      { symSec := inp.sec, symval := H + rel.addend + link.secAddr inp.sec, maxAlignment
        reserveSize := reserveOf (inp.symSize rel.sym) rel.addend, undefinedWeak := s.undefinedWeak }
      { st with reserveSize := reserveOf (inp.symSize rel.sym) rel.addend } rel next = relaxPcLo link
      { symSec := inp.sec, symval := H + rel.addend + link.secAddr inp.sec, maxAlignment
        reserveSize := reserveOf (inp.symSize rel.sym) rel.addend, undefinedWeak := s.undefinedWeak }
      { st with reserveSize := reserveOf (inp.symSize rel.sym) rel.addend } rel next type := by
    intro type ht
    rcases htype with h | h <;> rw [bfdRiscvRelaxPc, h, ← ht, h] <;> rfl
  unfold relaxPair
  dsimp only
  rw [hsym]
  dsimp only
  rw [haddr, hreserve rfl, applyRelaxFunc, hpc _ rfl, relaxPcLo]
  dsimp only
  rw [hoff]
  cases riscvFindPcgpHiReloc st.pcgp H with
  | none => rfl
  | some hi =>
    dsimp only
    split <;> rfl

/-- The high part is deleted only in range, only when no low part came before, and leaves a record. -/
theorem relaxPair_pcHi (htype : rel.type = .pcrelHi20)
    (hdel : (relaxPair link inp maxAlignment .pc st rel next).rel.type = .delete) :
    ∃ s, (relaxSymbol link inp .pc rel st.reserveSize).1 = some s ∧
      (s.undefinedWeak = false → (link.sections (symbolAddress link s rel.addend).1).merge = false ∧
        (link.sections (symbolAddress link s rel.addend).1).code = false) ∧
      riscvFindPcgpLoReloc st.pcgp rel.offset = false ∧
      inGpRange s.undefinedWeak (symbolAddress link s rel.addend).2 (relaxGpValue link)
        (gpAlignment link (symbolAddress link s rel.addend).1 s.undefinedWeak maxAlignment st.maxAlignmentForGp).1
        (relaxSymbol link inp .pc rel st.reserveSize).2 = true ∧
      (relaxPair link inp maxAlignment .pc st rel next).st.pcgp = riscvRecordPcgpHiReloc st.pcgp
        { hiSecOff := rel.offset, hiAddend := rel.addend, hiAddr := (symbolAddress link s rel.addend).2
          hiSym := rel.sym, symSec := (symbolAddress link s rel.addend).1, undefinedWeak := s.undefinedWeak } := by
  unfold relaxPair at hdel ⊢
  dsimp only at hdel ⊢
  cases hs : (relaxSymbol link inp .pc rel st.reserveSize).1 with
  | none =>
    rw [hs] at hdel
    simp [htype] at hdel
  | some s =>
    rw [hs] at hdel
    simp only [applyRelaxFunc, bfdRiscvRelaxPc, htype, relaxPcHi] at hdel ⊢
    refine ⟨s, rfl, ?_⟩
    split at hdel
    · simp [htype] at hdel
    · rename_i hplain
      split at hdel
      · simp [htype] at hdel
      · rename_i hlo
        split at hdel
        · rename_i hin
          refine ⟨?_, by simpa using hlo, hin, ?_⟩
          · intro hw
            simpa [hw] using hplain
          · rw [if_neg hplain, if_neg hlo, if_pos hin]
        · simp [htype] at hdel

end Parts

/-- A smaller reserve keeps the reference in range, away from the end of the address space. -/
theorem inGpRange_of_reserve_le {undefinedWeak : Bool} {v gp align reserve reserve' : Vma}
    (h : inGpRange undefinedWeak v gp align reserve = true) (hle : reserve'.toNat ≤ reserve.toNat)
    (hv : v.toNat + align.toNat + reserve.toNat + 2048 < 2 ^ 64)
    (hgp : gp.toNat + align.toNat + reserve.toNat + 2048 ≤ 2 ^ 64) :
    inGpRange undefinedWeak v gp align reserve' = true := by
  rw [inGpRange_iff] at h ⊢
  rcases h with h | h | ⟨hge, h⟩ | ⟨hlt, h⟩
  · exact .inl h
  · exact .inr (.inl h)
  · have hsum : ∀ r : Vma, r.toNat ≤ reserve.toNat →
        (v - gp + align + r).toNat = v.toNat - gp.toNat + align.toNat + r.toNat := by
      intro r hr
      simp only [BitVec.toNat_add, BitVec.toNat_sub]
      omega
    rw [validItypeImm_iff_toNat, hsum reserve le_rfl] at h
    refine .inr (.inr (.inl ⟨hge, ?_⟩))
    rw [validItypeImm_iff_toNat, hsum reserve' hle]
    omega
  · have hsum : ∀ r : Vma, r.toNat ≤ reserve.toNat →
        (v - gp - align - r).toNat = 2 ^ 64 - (gp.toNat - v.toNat + align.toNat + r.toNat) := by
      intro r hr
      simp only [BitVec.toNat_sub]
      omega
    rw [validItypeImm_iff_toNat, hsum reserve le_rfl] at h
    refine .inr (.inr (.inr ⟨hlt, ?_⟩))
    rw [validItypeImm_iff_toNat, hsum reserve' hle]
    omega

/-- The bytes the high part reserves. -/
def hiReserve (inp : Input) (hi : Rela) : Vma := reserveOf (inp.symSize hi.sym) hi.addend

/-- The high part reserves the rest of its own symbol, and lies away from the end of the address space.
A global function keeps the reserve of the symbol before it, but is not relaxed in a code section, and
needs no range when it is undefined weak. -/
structure HiSafe (link : Link) (inp : Input) (maxAlignment cache : Vma) (hi : Rela) : Prop where
  fresh : ∀ h s, inp.locals[hi.sym]? = none → inp.globalEntry hi.sym = some h → h.type = .func →
    globalRelaxSym link .pc h = some s →
    s.undefinedWeak = true ∨ (link.sections (symbolAddress link s hi.addend).1).code = true
  room : ∀ s, (relaxSymbol link inp .pc hi 0).1 = some s →
    (symbolAddress link s hi.addend).2.toNat +
        (gpAlignment link (symbolAddress link s hi.addend).1 s.undefinedWeak maxAlignment cache).1.toNat +
        (hiReserve inp hi).toNat + 2048 < 2 ^ 64 ∧
      (relaxGpValue link).toNat +
        (gpAlignment link (symbolAddress link s hi.addend).1 s.undefinedWeak maxAlignment cache).1.toNat +
        (hiReserve inp hi).toNat + 2048 ≤ 2 ^ 64

/-- The label of the low part is neither an IFUNC nor a global function, and reserves no more than the
symbol of the high part. -/
structure LoSafe (inp : Input) (hi lo : Rela) : Prop where
  notIfunc : inp.symType lo.sym ≠ .gnuIfunc
  notFunc : ∀ h, inp.locals[lo.sym]? = none → inp.globalEntry lo.sym = some h → h.type ≠ .func
  reserve : (reserveOf (inp.symSize lo.sym) lo.addend).toNat ≤ (hiReserve inp hi).toNat

theorem Designates.sized {inp : Input} {hi lo : Rela} {H : Vma} (hd : Designates inp lo.sym H)
    (h : LoSafe inp hi lo) : Sized inp lo.sym where
  defined := by
    intro isym hl
    rw [Designates, hl] at hd
    exact hd.1
  notFunc := h.notFunc

section Pass

variable (link : Link) (inp : Input) (maxAlignment : Vma) (st : PassState) (relocs : List Rela)

/-- The reserve the loop passes for the high part, where it matters. -/
theorem relaxSymbol_hiReserve {cache : Vma} {hi : Rela} {s : RelaxSym} (r : Vma)
    (hsafe : HiSafe link inp maxAlignment cache hi) (hs : (relaxSymbol link inp .pc hi r).1 = some s)
    (hplain : s.undefinedWeak = false → (link.sections (symbolAddress link s hi.addend).1).code = false) :
    s.undefinedWeak = true ∨ (relaxSymbol link inp .pc hi r).2 = hiReserve inp hi := by
  cases hl : inp.locals[hi.sym]? with
  | some isym => exact .inr (by simp only [relaxSymbol, hiReserve, Input.symSize, hl])
  | none =>
    cases hg : inp.globalEntry hi.sym with
    | none => simp [relaxSymbol, hl, hg] at hs
    | some e =>
      cases he : globalRelaxSym link .pc e with
      | none => simp [relaxSymbol, hl, hg, he] at hs
      | some s' =>
        simp only [relaxSymbol, hl, hg, he, Option.some.injEq] at hs
        subst hs
        by_cases hf : e.type = .func
        · -- a function: undefined weak, since it is not in a code section
          refine .inl ?_
          rcases hsafe.fresh e s' hl hg hf he with hw | hc
          · exact hw
          · cases hw : s'.undefinedWeak with
            | true => rfl
            | false =>
              rw [hplain hw] at hc
              exact absurd hc (by decide)
        · exact .inr (by simp [relaxSymbol, hiReserve, Input.symSize, hl, hg, he, hf])

/-- An AUIPC is deleted only together with all its low parts: each is rewritten against the symbol of the
high part, with the sum of the addends, in whatever order they stand. -/
theorem relaxPc_deletes_with_low_parts (hstart : st.pcgp.hi = []) (hpic : link.pic = false)
    (hplain : PlainSection link inp) {i : Nat} {hi : Rela} (hhi : RelaxMarked relocs i hi)
    (hthi : hi.type = .pcrelHi20)
    (huniq : ∀ (k : Nat) (rel : Rela),
      RelaxMarked relocs k rel → rel.type = .pcrelHi20 → rel.offset = hi.offset → k = i)
    (hsafe : HiSafe link inp maxAlignment st.maxAlignmentForGp hi)
    (hlos : ∀ (j : Nat) (lo : Rela), relocs[j]? = some lo → lo.type = .pcrelLo12I ∨ lo.type = .pcrelLo12S →
      Designates inp lo.sym hi.offset → RelaxMarked relocs j lo ∧ LoSafe inp hi lo)
    (hdel : (relaxRelocs link inp maxAlignment st relocs).2[i]?.map (·.type) = some .delete) :
    ∀ (j : Nat) (lo : Rela), relocs[j]? = some lo → lo.type = .pcrelLo12I ∨ lo.type = .pcrelLo12S →
      Designates inp lo.sym hi.offset →
      (relaxRelocs link inp maxAlignment st relocs).2[j]? =
        some { lo with sym := hi.sym, type := gprelOf lo.type, addend := lo.addend + hi.addend } := by
  intro j lo hget htlo hd
  obtain ⟨hmark, hlo⟩ := hlos j lo hget htlo hd
  have hfhi : relaxFuncOf link hi.type = some .pc := by rw [hthi]; simp [relaxFuncOf, hpic]
  have hflo : relaxFuncOf link lo.type = some .pc := by
    rcases htlo with h | h <;> rw [h] <;> simp [relaxFuncOf, hpic]
  obtain ⟨hgeti, nexti, hnexti, hfi⟩ := hhi.pair hfhi
  obtain ⟨-, nextj, hnextj, hfj⟩ := hmark.pair hflo
  rw [relaxRelocs_getElem? hgeti hnexti hfi, Option.map_some, Option.some.injEq] at hdel
  rw [relaxRelocs_getElem? hget hnextj hfj]
  obtain ⟨s, hs, hcode, hnolo, hin, hrec⟩ := relaxPair_pcHi hthi hdel
  have hlopair := fun st' => relaxPair_pcLo maxAlignment st' nextj hd hpic
    hplain hlo.notIfunc (hd.sized hlo) htlo
  rcases Nat.lt_trichotomy j i with hji | rfl | hij
  · -- the low part came first, was recorded, and so the high part is not deleted
    have hfresh := stateAt_hi_fresh link inp maxAlignment hstart huniq j hji.le
    have hrecorded : riscvFindPcgpLoReloc (stateAt link inp maxAlignment st relocs (j + 1)).pcgp hi.offset = true := by
      rw [stateAt_pair hget hnextj hfj, hlopair, hfresh]
      simp [riscvFindPcgpLoReloc, riscvRecordPcgpLoReloc]
    rw [stateAt_lo_mono hrecorded hji] at hnolo
    exact absurd hnolo (by decide)
  · rw [hget, Option.some.injEq] at hgeti
    rw [hgeti, hthi] at htlo
    exact absurd htlo (by decide)
  · -- the record of the high part is there, and the test of the low part passes too
    have hfound : riscvFindPcgpHiReloc (stateAt link inp maxAlignment st relocs j).pcgp hi.offset =
        some { hiSecOff := hi.offset, hiAddend := hi.addend, hiAddr := (symbolAddress link s hi.addend).2
               hiSym := hi.sym, symSec := (symbolAddress link s hi.addend).1, undefinedWeak := s.undefinedWeak } := by
      refine stateAt_hi_found huniq ?_ hij
      rw [stateAt_pair hgeti hnexti hfi, hrec]
      simp [riscvFindPcgpHiReloc, riscvRecordPcgpHiReloc]
    have hci := (cacheOk_stateAt link inp maxAlignment st relocs i).gpAlignment
      (symbolAddress link s hi.addend).1 s.undefinedWeak maxAlignment
    have hcj := (cacheOk_stateAt link inp maxAlignment st relocs j).gpAlignment
      (symbolAddress link s hi.addend).1 s.undefinedWeak maxAlignment
    rw [hci.1] at hin
    rw [hlopair, hfound]
    dsimp only
    rw [hcj.1, if_pos]
    rcases relaxSymbol_hiReserve link inp maxAlignment _ hsafe hs (fun hw => (hcode hw).2) with hw | hreserve
    · rw [hw, inGpRange, Bool.true_or, Bool.true_or, Bool.true_or]
    · rw [hreserve] at hin
      have hroom := hsafe.room s (by rw [← hs]; exact relaxSymbol_fst ..)
      exact inGpRange_of_reserve_le hin hlo.reserve hroom.1 hroom.2

end Pass

/-! ## Labels with a size

The label may be the name of a function whose first instruction is the AUIPC. -/

/-- Local symbols: nothing, a variable of four bytes 2032 bytes above gp, a label without size, and a
function of 64 bytes on the same instruction. -/
def pcInput : Input where
  sec := 0
  elfSections := fun shndx => shndx - 1
  locals := [⟨0, 0, 0, .notype⟩, ⟨0xff0, 4, 2, .object⟩, ⟨0, 0, 1, .notype⟩, ⟨0, 64, 1, .func⟩]
  symHashes := []
  hashes := []

/-- `auipc %pcrel_hi(v)` at offset 0, and its low part through the label `sym`. -/
def pcRelocs (sym : Nat) : List Rela :=
  [⟨0, 1, .pcrelHi20, 0⟩, ⟨0, 0, .relax, 0⟩, ⟨4, sym, .pcrelLo12I, 0⟩, ⟨4, 0, .relax, 0⟩]

/-- Through the name of the function, the AUIPC is deleted and the low part is left behind. -/
theorem pcRelocs_func_lo_kept :
    (relaxRelocs luiLink pcInput 8 { contents := List.replicate 8 0 } (pcRelocs 3)).2[0]? =
        some ⟨0, 0, .delete, 4⟩ ∧
      (relaxRelocs luiLink pcInput 8 { contents := List.replicate 8 0 } (pcRelocs 3)).2[2]? =
        some ⟨4, 3, .pcrelLo12I, 0⟩ := by
  decide

theorem pcRelocs_label_both :
    (relaxRelocs luiLink pcInput 8 { contents := List.replicate 8 0 } (pcRelocs 2)).2[0]?.map (·.type) =
        some .delete ∧
      (relaxRelocs luiLink pcInput 8 { contents := List.replicate 8 0 } (pcRelocs 2)).2[2]? =
        some ⟨4, 1, .gprelI, 0⟩ := by
  have hdel : (relaxRelocs luiLink pcInput 8 { contents := List.replicate 8 0 } (pcRelocs 2)).2[0]?.map (·.type) =
      some .delete := by decide
  refine ⟨hdel, ?_⟩
  have hmem : ∀ k rel, (pcRelocs 2)[k]? = some rel → rel.type = .pcrelHi20 → k = 0 := by
    intro k rel hk ht
    match k with
    | 0 => rfl
    | 1 | 2 | 3 =>
      simp only [pcRelocs, List.getElem?_cons_succ, List.getElem?_cons_zero, Option.some.injEq] at hk
      rw [← hk] at ht
      exact absurd ht (by decide)
    | _ + 4 => exact absurd hk (by simp [pcRelocs])
  have hhi : RelaxMarked (pcRelocs 2) 0 ⟨0, 1, .pcrelHi20, 0⟩ := ⟨rfl, ⟨0, 0, .relax, 0⟩, rfl, rfl, rfl⟩
  exact relaxPc_deletes_with_low_parts luiLink pcInput 8 { contents := List.replicate 8 0 } (pcRelocs 2) rfl rfl
    ⟨rfl, by decide⟩ hhi rfl
    (fun k rel hm ht _ => hmem k rel hm.1 ht)
    ⟨by intro h s hl; exact absurd hl (by decide), by rintro s ⟨⟩; decide⟩
    (by
      intro j lo hj ht _
      match j with
      | 2 =>
        simp only [pcRelocs, List.getElem?_cons_succ, List.getElem?_cons_zero, Option.some.injEq] at hj
        subst hj
        exact ⟨⟨rfl, ⟨4, 0, .relax, 0⟩, rfl, rfl, rfl⟩, by decide, by intro h hl; exact absurd hl (by decide),
          by decide⟩
      | 0 | 1 | 3 =>
        simp only [pcRelocs, List.getElem?_cons_succ, List.getElem?_cons_zero, Option.some.injEq] at hj
        rw [← hj] at ht
        exact absurd ht (by decide)
      | _ + 4 => exact absurd hj (by simp [pcRelocs]))
    hdel 2 ⟨4, 2, .pcrelLo12I, 0⟩ rfl (.inl rfl) ⟨by decide, rfl, rfl⟩

end RiscvBinutils.Bfd
