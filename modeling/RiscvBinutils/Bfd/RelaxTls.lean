/-
TLS accesses that are made relative to `tp` (bfd/elfnn-riscv.c, `_bfd_riscv_relax_tls_le`).
The lui, the add and the low part of an access decide one by one, from the address of the symbol at that time.  They
agree in every pass, through all that moves the section in between, and in the end the access leads to the symbol.
-/
import RiscvBinutils.Bfd.Align
import RiscvBinutils.Bfd.BaseRegister
import RiscvBinutils.Bfd.RelaxLui

namespace RiscvBinutils.Bfd

open RiscvBinutils.Base RiscvBinutils.Opcode RiscvBinutils.Machine

/-! ## One access -/

/-- What a low part becomes. -/
def tprelOf : RelocType → RelocType
  | .tprelLo12S => .tprelS
  | _ => .tprelI

/-- The relocations of an access to a thread-local symbol, by their positions in the table, in any order: the lui and
the add with the addend `a`, the low part with the addend `b`. -/
structure TlsAccess where
  sym : Nat
  a : Vma
  b : Vma
  hi : Nat
  add : Nat
  lo : Nat
  low : RelocType
  isLow : low = .tprelLo12I ∨ low = .tprelLo12S

namespace TlsAccess

variable (acc : TlsAccess)

/-- The access is as it was written, and may be relaxed. -/
structure Whole (relocs : List Rela) : Prop where
  hi : ∃ offset, RelaxMarked relocs acc.hi ⟨offset, acc.sym, .tprelHi20, acc.a⟩
  add : ∃ offset, RelaxMarked relocs acc.add ⟨offset, acc.sym, .tprelAdd, acc.a⟩
  lo : ∃ offset, RelaxMarked relocs acc.lo ⟨offset, acc.sym, acc.low, acc.b⟩

/-- An instruction of four bytes that is marked to be deleted, or was deleted. -/
def Gone (relocs : List Rela) (k : Nat) : Prop :=
  ∃ offset type, (type = .delete ∨ type = .none) ∧ relocs[k]? = some ⟨offset, 0, type, 4⟩

/-- Only the low part is left of the access. -/
structure Short (relocs : List Rela) : Prop where
  hi : Gone relocs acc.hi
  add : Gone relocs acc.add
  lo : ∃ offset, relocs[acc.lo]? = some ⟨offset, acc.sym, tprelOf acc.low, acc.b⟩

/-- The two addends agree in the high part while the symbol lies where it does, and it is no local symbol without a
section. -/
structure Steady (link : Link) (inp : Input) : Prop where
  defined : ∀ isym, inp.locals[acc.sym]? = some isym → isym.shndx ≠ 0
  high : ∀ s, symbolOf link inp .tlsLe acc.sym = some s →
    constHighPart (tpoff link (symbolAddress link s acc.a).2) =
      constHighPart (tpoff link (symbolAddress link s acc.b).2)

end TlsAccess

/-! ## One pass -/

/-- The decision of `_bfd_riscv_relax_tls_le` for `sym + addend`. -/
def tlsDecision (link : Link) (inp : Input) (sym : Nat) (addend : Vma) : Bool :=
  match symbolOf link inp .tlsLe sym with
  | none => false
  | some s => constHighPart (tpoff link (symbolAddress link s addend).2) = 0

section Pass

variable {link : Link} {inp : Input} {maxAlignment : Vma} {st : PassState} {rel next : Rela}

variable (link) in
/-- The symbol of a relocation does not depend on where the relocation is, unless it is a local one without a
section. -/
theorem relaxSymbol_defined (hdef : ∀ isym, inp.locals[rel.sym]? = some isym → isym.shndx ≠ 0) (reserve : Vma) :
    (relaxSymbol link inp .tlsLe rel reserve).1 = symbolOf link inp .tlsLe rel.sym := by
  unfold relaxSymbol symbolOf
  cases hl : inp.locals[rel.sym]? with
  | some isym =>
    have hshndx := hdef isym hl
    simp only [localRelaxSym, hshndx, if_false]
  | none =>
    cases hg : inp.globalEntry rel.sym with
    | none => rfl
    | some h =>
      rw [Option.bind_some]
      cases hs : globalRelaxSym link .tlsLe h with
      | none => simp only [hs]
      | some s => simp only [hs]

/-- What one round makes of a relocation of an access, and that the `R_RISCV_RELAX` after it stays. -/
theorem relaxPair_tlsLe (hdef : ∀ isym, inp.locals[rel.sym]? = some isym → isym.shndx ≠ 0) :
    (relaxPair link inp maxAlignment .tlsLe st rel next).next = next ∧
      (relaxPair link inp maxAlignment .tlsLe st rel next).rel =
        if tlsDecision link inp rel.sym rel.addend then
          match rel.type with
          | .tprelLo12I => rel.setType .tprelI
          | .tprelLo12S => rel.setType .tprelS
          | _ => riscvRelaxDeletePiecewise rel rel.offset 4
        else rel := by
  have hsym := relaxSymbol_defined link hdef st.reserveSize
  unfold relaxPair tlsDecision
  dsimp only
  rw [hsym]
  cases symbolOf link inp .tlsLe rel.sym with
  | none => exact ⟨rfl, rfl⟩
  | some s =>
    simp only [applyRelaxFunc, bfdRiscvRelaxTlsLe]
    by_cases hhigh : constHighPart (tpoff link (symbolAddress link s rel.addend).2) = 0
    · simp only [hhigh, ne_eq, not_true_eq_false, if_false, decide_true, if_true]
      cases rel.type <;> exact ⟨rfl, rfl⟩
    · simp only [hhigh, ne_eq, not_false_eq_true, if_true, decide_false, Bool.false_eq_true, if_false, and_self]

/-- While the high parts agree, so do the decisions. -/
theorem TlsAccess.Steady.decision {acc : TlsAccess} (h : acc.Steady link inp) :
    tlsDecision link inp acc.sym acc.a = tlsDecision link inp acc.sym acc.b := by
  unfold tlsDecision
  cases hs : symbolOf link inp .tlsLe acc.sym with
  | none => rfl
  | some s =>
    dsimp only
    rw [h.high s hs]

end Pass

section Access

variable {acc : TlsAccess} {link : Link} {inp : Input} {maxAlignment : Vma} {st : PassState} {relocs : List Rela}

namespace TlsAccess

/-- Marked to be deleted, at the place of the instruction. -/
def Deleted (relocs relocs' : List Rela) (k : Nat) : Prop :=
  ∃ rel, relocs[k]? = some rel ∧ relocs'[k]? = some (riscvRelaxDeletePiecewise rel rel.offset 4)

variable (acc) in
/-- The low part made relative to `tp`, the rest of its entry as it was. -/
def Rewritten (relocs relocs' : List Rela) : Prop :=
  ∃ rel, relocs[acc.lo]? = some rel ∧ relocs'[acc.lo]? = some (rel.setType (tprelOf acc.low))

/-- A relocation that stays, with the `R_RISCV_RELAX` after it. -/
theorem marked_of_pair {k : Nat} {rel : Rela} (hmark : RelaxMarked relocs k rel)
    (hfunc : relaxFuncOf link rel.type = some .tlsLe)
    (hdef : ∀ isym, inp.locals[rel.sym]? = some isym → isym.shndx ≠ 0)
    (hdecision : tlsDecision link inp rel.sym rel.addend = false) :
    RelaxMarked (relaxRelocs link inp maxAlignment st relocs).2 k rel := by
  obtain ⟨hrel, next, hnext, htype, hoff⟩ := hmark
  have hf : relaxFuncFor link rel next = some .tlsLe := by rw [relaxFuncFor, if_pos ⟨htype, hoff⟩, hfunc]
  have hpair := @relaxRelocs_pair link inp maxAlignment st relocs k rel next .tlsLe hrel hnext hf
  have hround := @relaxPair_tlsLe link inp maxAlignment (stateAt link inp maxAlignment st relocs k) rel next hdef
  rw [hround.1, hround.2, hdecision, if_neg Bool.false_ne_true] at hpair
  exact ⟨hpair.1, next, hpair.2, htype, hoff⟩

/-- A relocation that is relaxed. -/
theorem relaxed_of_pair {k : Nat} {rel : Rela} (hmark : RelaxMarked relocs k rel)
    (hfunc : relaxFuncOf link rel.type = some .tlsLe)
    (hdef : ∀ isym, inp.locals[rel.sym]? = some isym → isym.shndx ≠ 0)
    (hdecision : tlsDecision link inp rel.sym rel.addend = true) :
    (relaxRelocs link inp maxAlignment st relocs).2[k]? = some
      (match rel.type with
        | .tprelLo12I => rel.setType .tprelI
        | .tprelLo12S => rel.setType .tprelS
        | _ => riscvRelaxDeletePiecewise rel rel.offset 4) := by
  obtain ⟨hrel, next, hnext, hf⟩ := hmark.pair hfunc
  rw [relaxRelocs_getElem? hrel hnext hf, (relaxPair_tlsLe hdef).2, if_pos hdecision]

/-- In a pass the access is relaxed as a whole, when its address is near the thread pointer, or left as it is. -/
theorem Whole.pass (h : acc.Whole relocs) (hsteady : acc.Steady link inp) :
    if tlsDecision link inp acc.sym acc.a then
      Deleted relocs (relaxRelocs link inp maxAlignment st relocs).2 acc.hi ∧
        Deleted relocs (relaxRelocs link inp maxAlignment st relocs).2 acc.add ∧
        acc.Rewritten relocs (relaxRelocs link inp maxAlignment st relocs).2
    else acc.Whole (relaxRelocs link inp maxAlignment st relocs).2 := by
  obtain ⟨⟨offh, hhi⟩, ⟨offa, hadd⟩, ⟨offl, hlo⟩⟩ := h
  have hdef := hsteady.defined
  have hsame := hsteady.decision
  have hlow : relaxFuncOf link acc.low = some .tlsLe := by rcases acc.isLow with hl | hl <;> (rw [hl]; rfl)
  cases hd : tlsDecision link inp acc.sym acc.a with
  | true =>
    rw [if_pos rfl]
    refine ⟨⟨_, hhi.1, relaxed_of_pair hhi rfl hdef hd⟩, ⟨_, hadd.1, relaxed_of_pair hadd rfl hdef hd⟩,
      ⟨_, hlo.1, ?_⟩⟩
    rw [relaxed_of_pair hlo hlow hdef (hsame ▸ hd)]
    rcases acc.isLow with hl | hl <;> simp only [hl, tprelOf]
  | false =>
    rw [if_neg Bool.false_ne_true]
    exact ⟨⟨offh, marked_of_pair hhi rfl hdef hd⟩, ⟨offa, marked_of_pair hadd rfl hdef hd⟩,
      ⟨offl, marked_of_pair hlo hlow hdef (hsame ▸ hd)⟩⟩

end TlsAccess

end Access

/-! ## Between the passes -/

/-- The relocations have moved, each according to its place alone; what was to be deleted or aligned may have been
done away with. -/
def MovedBy (move : Vma → Vma) (relocs relocs' : List Rela) : Prop :=
  ∀ (k : Nat) (r : Rela), relocs[k]? = some r →
    relocs'[k]? = some { r with offset := move r.offset } ∨
      ((r.type = .delete ∨ r.type = .align) ∧
        relocs'[k]? = some { r with offset := move r.offset, sym := 0, type := .none })

section Moves

variable {relocs relocs' relocs'' : List Rela} {move move' : Vma → Vma} {info : SecInfo} {st st' : SecState}

theorem MovedBy.refl (relocs : List Rela) : MovedBy id relocs relocs := fun _ _ hr => .inl hr

theorem MovedBy.trans (h : MovedBy move relocs relocs') (h' : MovedBy move' relocs' relocs'') :
    MovedBy (move' ∘ move) relocs relocs'' := by
  intro k r hr
  rcases h k r hr with hk | ⟨htype, hk⟩
  · exact h' k _ hk
  · rcases h' k _ hk with hk' | ⟨hnone, -⟩
    · exact .inr ⟨htype, hk'⟩
    · rcases hnone with hnone | hnone <;> cases hnone

/-- `adjustRela` on the offset. -/
def adjustOffset (addr count toaddr offset : Vma) : Vma :=
  if addr < offset ∧ offset < toaddr then offset - count else offset

theorem adjustRela_eq (addr count toaddr : Vma) (r : Rela) :
    adjustRela addr count toaddr r = { r with offset := adjustOffset addr count toaddr r.offset } := by
  unfold adjustRela adjustOffset
  split <;> rfl

theorem movedBy_adjustRela (addr count toaddr : Vma) (relocs : List Rela) :
    MovedBy (adjustOffset addr count toaddr) relocs (relocs.map (adjustRela addr count toaddr)) := by
  intro k r hr
  rw [List.getElem?_map, hr, Option.map_some, adjustRela_eq]
  exact .inl rfl

/-- Clearing an entry that was to be deleted or aligned. -/
theorem movedBy_clear {i : Nat} (h : ∀ r, relocs[i]? = some r → r.type = .delete ∨ r.type = .align) :
    MovedBy id relocs (relocs.modify i fun r => { r with sym := 0, type := .none }) := by
  intro k r hr
  rw [List.getElem?_modify, hr]
  by_cases hik : i = k
  · subst hik
    exact .inr ⟨h r hr, by simp⟩
  · exact .inl (by simp [hik])

theorem resolveMark_movedBy {i : Nat} {rel : Rela} {deleteTotal toaddr : Vma} (hrel : st.relocs[i]? = some rel)
    (hdel : rel.isDelete = true) :
    MovedBy (adjustOffset rel.offset rel.addend st.size) st.relocs
      (resolveMark info st i rel deleteTotal toaddr).relocs := by
  have hmap := movedBy_adjustRela rel.offset rel.addend st.size st.relocs
  have hrelocs : (resolveMark info st i rel deleteTotal toaddr).relocs =
      (st.relocs.map (adjustRela rel.offset rel.addend st.size)).modify i fun r =>
      { r with sym := 0, type := .none } := by
    rw [← deleteBytes_relocs info st rel.offset rel.addend none deleteTotal toaddr]
    rfl
  rw [hrelocs]
  refine hmap.trans (movedBy_clear fun r hr => .inl ?_)
  rw [List.getElem?_map, hrel, Option.map_some, Option.some.injEq] at hr
  rw [← hr, adjustRela_eq]
  simpa [Rela.isDelete] using hdel

theorem resolveDeleteLoop_movedBy (info : SecInfo) (fuel : Nat) (deleteTotal : Vma) (i : Nat) (st : SecState) :
    ∃ move, MovedBy move st.relocs (resolveDeleteLoop info fuel deleteTotal i st).relocs := by
  induction fuel generalizing deleteTotal i st with
  | zero => exact ⟨id, .refl _⟩
  | succ fuel ih =>
    rw [resolveDeleteLoop]
    split
    · exact ⟨id, .refl _⟩
    · rename_i rel hrel
      split
      · rename_i hdel
        split
        · exact ⟨_, resolveMark_movedBy hrel hdel⟩
        · rename_i j _
          dsimp only
          generalize (st.relocs[j]?.map (·.offset)).getD st.size = toaddr
          have hmark := @resolveMark_movedBy info st i rel deleteTotal toaddr hrel hdel
          obtain ⟨move, hrest⟩ := ih (deleteTotal + rel.addend) j _
          exact ⟨_, hmark.trans hrest⟩
      · exact ih deleteTotal (i + 1) st

theorem alignRound_movedBy {secAddr : Vma} {i : Nat} (h : alignRound info secAddr st i = .ok st') :
    ∃ move, MovedBy move st.relocs st'.relocs := by
  unfold alignRound at h
  split at h
  · cases h
    exact ⟨id, .refl _⟩
  · rename_i rel hrel
    split at h
    · rename_i htype
      have hclear : MovedBy id st.relocs (setInfo st i .none).relocs :=
        movedBy_clear fun r hr => .inr (by rw [hrel] at hr; cases hr; exact htype)
      unfold bfdRiscvRelaxAlign at h
      split at h
      · cases h
      · dsimp only at h
        split at h
        · cases h
        · split at h
          · cases h
            exact ⟨id, hclear⟩
          · cases h
            rw [riscvRelaxDeleteImmediate, deleteBytes_relocs]
            exact ⟨_, hclear.trans (movedBy_adjustRela _ _ _ _)⟩
    · cases h
      exact ⟨id, .refl _⟩

end Moves

section Access

variable {acc : TlsAccess} {relocs relocs' : List Rela} {move : Vma → Vma}

theorem MovedBy.marked {k : Nat} {rel : Rela} (h : MovedBy move relocs relocs') (hmark : RelaxMarked relocs k rel)
    (htype : rel.type ≠ .delete ∧ rel.type ≠ .align) :
    RelaxMarked relocs' k { rel with offset := move rel.offset } := by
  obtain ⟨hrel, next, hnext, hnexttype, hoff⟩ := hmark
  have hstays : relocs'[k]? = some { rel with offset := move rel.offset } := by
    rcases h k rel hrel with hk | ⟨hgone, -⟩
    · exact hk
    · rcases hgone with hgone | hgone
      · exact absurd hgone htype.1
      · exact absurd hgone htype.2
  refine ⟨hstays, { next with offset := move next.offset }, ?_, hnexttype, congrArg move hoff⟩
  rcases h (k + 1) next hnext with hk | ⟨hgone, -⟩
  · exact hk
  · rw [hnexttype] at hgone
    rcases hgone with hgone | hgone <;> cases hgone

namespace TlsAccess

theorem Whole.moved (h : acc.Whole relocs) (hmove : MovedBy move relocs relocs') : acc.Whole relocs' := by
  obtain ⟨⟨offh, hhi⟩, ⟨offa, hadd⟩, ⟨offl, hlo⟩⟩ := h
  have hlow : acc.low ≠ .delete ∧ acc.low ≠ .align := by rcases acc.isLow with hl | hl <;> (rw [hl]; decide)
  exact ⟨⟨_, hmove.marked hhi ⟨nofun, nofun⟩⟩, ⟨_, hmove.marked hadd ⟨nofun, nofun⟩⟩, ⟨_, hmove.marked hlo hlow⟩⟩

theorem Gone.moved {k : Nat} (h : Gone relocs k) (hmove : MovedBy move relocs relocs') : Gone relocs' k := by
  obtain ⟨offset, type, htype, hk⟩ := h
  rcases hmove k _ hk with hk' | ⟨-, hk'⟩
  · exact ⟨_, type, htype, hk'⟩
  · exact ⟨_, .none, .inr rfl, hk'⟩

theorem Short.moved (h : acc.Short relocs) (hmove : MovedBy move relocs relocs') : acc.Short relocs' := by
  obtain ⟨hhi, hadd, ⟨offset, hlo⟩⟩ := h
  refine ⟨hhi.moved hmove, hadd.moved hmove, ⟨move offset, ?_⟩⟩
  rcases hmove acc.lo _ hlo with hk | ⟨hgone, -⟩
  · exact hk
  · rcases acc.isLow with hl | hl <;> (rw [hl] at hgone; rcases hgone with hgone | hgone <;> cases hgone)

/-- What was relaxed once is not touched by a later pass. -/
theorem Short.pass {link : Link} {inp : Input} {maxAlignment : Vma} {st : PassState} (h : acc.Short relocs) :
    acc.Short (relaxRelocs link inp maxAlignment st relocs).2 := by
  obtain ⟨hhi, hadd, ⟨offset, hlo⟩⟩ := h
  have hgone : ∀ k, Gone relocs k → Gone (relaxRelocs link inp maxAlignment st relocs).2 k := by
    rintro k ⟨offset, type, htype, hk⟩
    refine ⟨offset, type, htype, ?_⟩
    rcases htype with rfl | rfl
    · exact relaxRelocs_unrelaxed rfl (show RelocType.delete ≠ .relax by decide) k hk
    · exact relaxRelocs_unrelaxed rfl (show RelocType.none ≠ .relax by decide) k hk
  refine ⟨hgone _ hhi, hgone _ hadd, ⟨offset, ?_⟩⟩
  rcases acc.isLow with hl | hl
  · rw [hl] at hlo ⊢
    exact relaxRelocs_unrelaxed rfl (show RelocType.tprelI ≠ .relax by decide) _ hlo
  · rw [hl] at hlo ⊢
    exact relaxRelocs_unrelaxed rfl (show RelocType.tprelS ≠ .relax by decide) _ hlo

end TlsAccess

end Access

/-! ## While the section is relaxed -/

/-- What may happen to a section while it is relaxed: pass 0 over it, each time with a layout for which `ok` holds,
alignments, and whatever other sections do to the symbols. -/
inductive Relaxing (info : SecInfo) (ok : Link → Input → Prop) (st : SecState) : SecState → Prop
  | start : Relaxing info ok st st
  | pass {st' : SecState} (h : Relaxing info ok st st') (link : Link) (inp : Input) (maxAlignment : Vma)
      (pass : PassState) (hok : ok link inp) : Relaxing info ok st (relaxPass info link inp maxAlignment pass st')
  | align {st' st'' : SecState} (h : Relaxing info ok st st') (secAddr : Vma) (i : Nat)
      (hround : alignRound info secAddr st' i = .ok st'') : Relaxing info ok st st''
  | others {st' : SecState} (h : Relaxing info ok st st') (locals : List LocalSym) (hashes : List HashEntry) :
    Relaxing info ok st { st' with locals, hashes }

namespace TlsAccess

variable {acc : TlsAccess}

/-- The three are relaxed together in a pass, or none of them is. -/
theorem Whole.pass_iff {relocs : List Rela} (h : acc.Whole relocs) {link : Link} {inp : Input}
    (hsteady : acc.Steady link inp) (maxAlignment : Vma) (st : PassState) :
    (Deleted relocs (relaxRelocs link inp maxAlignment st relocs).2 acc.hi ↔
        acc.Rewritten relocs (relaxRelocs link inp maxAlignment st relocs).2) ∧
      (Deleted relocs (relaxRelocs link inp maxAlignment st relocs).2 acc.add ↔
        acc.Rewritten relocs (relaxRelocs link inp maxAlignment st relocs).2) := by
  have hpass := @Whole.pass acc link inp maxAlignment st relocs h hsteady
  generalize (relaxRelocs link inp maxAlignment st relocs).2 = out at hpass ⊢
  cases hd : tlsDecision link inp acc.sym acc.a with
  | true =>
    rw [hd, if_pos rfl] at hpass
    exact ⟨iff_of_true hpass.1 hpass.2.2, iff_of_true hpass.2.1 hpass.2.2⟩
  | false =>
    rw [hd, if_neg Bool.false_ne_true] at hpass
    obtain ⟨⟨_, hhi, -⟩, ⟨_, hadd, -⟩, ⟨_, hlo, -⟩⟩ := hpass
    have hkept : ¬ acc.Rewritten relocs out := by
      rintro ⟨rel, -, hrel⟩
      have htype := congrArg Rela.type (Option.some.inj (hlo.symm.trans hrel))
      rcases acc.isLow with hl | hl <;> (simp only [hl] at htype; cases htype)
    refine ⟨iff_of_false ?_ hkept, iff_of_false ?_ hkept⟩
    · rintro ⟨rel, -, hrel⟩
      cases congrArg Rela.type (Option.some.inj (hhi.symm.trans hrel))
    · rintro ⟨rel, -, hrel⟩
      cases congrArg Rela.type (Option.some.inj (hadd.symm.trans hrel))

theorem Whole.short {relocs out : List Rela} (h : acc.Whole relocs) (hhi : Deleted relocs out acc.hi)
    (hadd : Deleted relocs out acc.add) (hlo : acc.Rewritten relocs out) : acc.Short out := by
  obtain ⟨relh, -, hrelh⟩ := hhi
  obtain ⟨rela, -, hrela⟩ := hadd
  obtain ⟨rell, hold, hrell⟩ := hlo
  obtain ⟨offl, hmark, -⟩ := h.lo
  rw [hmark, Option.some.injEq] at hold
  subst hold
  exact ⟨⟨_, _, .inl rfl, hrelh⟩, ⟨_, _, .inl rfl, hrela⟩, ⟨offl, hrell⟩⟩

/-- Whatever happens to the section, the access is there as it was written, or its low part alone. -/
theorem Whole.relaxing {info : SecInfo} {st st' : SecState} (h : acc.Whole st.relocs)
    (hrun : Relaxing info acc.Steady st st') : acc.Whole st'.relocs ∨ acc.Short st'.relocs := by
  induction hrun with
  | start => exact .inl h
  | pass _ link inp maxAlignment pass hok ih =>
    rename_i st' _
    obtain ⟨move, hmove⟩ := resolveDeleteLoop_movedBy info
      (relaxRelocs link inp maxAlignment { pass with contents := st'.contents } st'.relocs).2.length 0 0
      { st' with
        contents := (relaxRelocs link inp maxAlignment { pass with contents := st'.contents } st'.relocs).1.contents
        relocs := (relaxRelocs link inp maxAlignment { pass with contents := st'.contents } st'.relocs).2 }
    rcases ih with hwhole | hshort
    · have hpass := @Whole.pass acc link inp maxAlignment { pass with contents := st'.contents } st'.relocs hwhole hok
      split at hpass
      · exact .inr ((hwhole.short hpass.1 hpass.2.1 hpass.2.2).moved hmove)
      · exact .inl (hpass.moved hmove)
    · exact .inr (hshort.pass.moved hmove)
  | align _ secAddr i hround ih =>
    obtain ⟨move, hmove⟩ := alignRound_movedBy hround
    exact ih.imp (·.moved hmove) (·.moved hmove)
  | others _ _ _ ih => exact ih

end TlsAccess

/-! ## In the end -/

section Final

variable {link : Link} {inp : Input} {rel : Rela} {s : RelocSym} {st : RelocState}

/-- Where a relocation is, and of which type, has no part in finding its symbol. -/
theorem bfdElfRelaLocalSym_place (isym : LocalSym) (sec : Nat) (rel : Rela) :
    bfdElfRelaLocalSym link isym sec rel =
      ({ rel with addend := (bfdElfRelaLocalSym link isym sec ⟨0, rel.sym, .none, rel.addend⟩).1.addend },
        (bfdElfRelaLocalSym link isym sec ⟨0, rel.sym, .none, rel.addend⟩).2) := by
  unfold bfdElfRelaLocalSym
  dsimp only
  split <;> rfl

theorem globalRelocSym_place (p : Nat) (h : HashEntry) (rel : Rela) :
    globalRelocSym link inp rel p h =
      { globalRelocSym link inp ⟨0, rel.sym, .none, rel.addend⟩ p h with
        rel := { rel with addend := (globalRelocSym link inp ⟨0, rel.sym, .none, rel.addend⟩ p h).rel.addend } } := by
  unfold globalRelocSym
  dsimp only
  split
  · split
    · rfl
    · split <;> rfl
  · split
    · rfl
    · split
      · rfl
      · split <;> rfl

theorem relocSymbol_place (h : relocSymbol link inp ⟨0, rel.sym, .none, rel.addend⟩ = .ok s) :
    relocSymbol link inp rel = .ok { s with rel := { rel with addend := s.rel.addend } } := by
  unfold relocSymbol at h ⊢
  dsimp only at h ⊢
  cases hl : inp.locals[rel.sym]? with
  | some isym =>
    rw [hl] at h
    unfold localRelocSym at h ⊢
    dsimp only at h ⊢
    rw [bfdElfRelaLocalSym_place isym _ rel]
    split at h
    · rename_i hifunc
      rw [if_pos hifunc]
      split at h
      · cases h
      · cases h
        rfl
    · rename_i hifunc
      rw [if_neg hifunc]
      cases h
      rfl
  | none =>
    rw [hl] at h
    dsimp only at h ⊢
    split at h
    · cases h
    · rename_i p hp
      split at h
      · cases h
      · rename_i e he
        rw [globalRelocSym_place p e rel]
        cases h
        rfl

/-- `S + addend` in a final link. -/
def finalAddress (link : Link) (inp : Input) (sym : Nat) (addend : Vma) : Vma :=
  match relocSymbol link inp ⟨0, sym, .none, addend⟩ with
  | .error _ => 0
  | .ok s => s.relocation + s.rel.addend

/-- The symbol is known to the link, it stays in the output, and it is no function that is chosen at run time. -/
def KnownSymbol (link : Link) (inp : Input) (sym : Nat) : Prop :=
  ∀ addend, ∃ s, relocSymbol link inp ⟨0, sym, .none, addend⟩ = .ok s ∧ s.unresolved = false ∧ s.ifunc = none ∧
    s.sec.any link.discardedSection = false

theorem tpoff_add (htls : link.tlsSec.isSome) (x y : Vma) : tpoff link x + y = tpoff link (x + y) := by
  obtain ⟨tls, htls⟩ := Option.isSome_iff_exists.mp htls
  rw [tpoff, tpoff, htls]
  dsimp only
  bv_omega

/-- Relocating against a symbol that is known: the value that is placed leads to `S + addend`. -/
theorem relocateOne_known (hknown : KnownSymbol link inp rel.sym) (hfinal : link.type ≠ .relocatable) :
    ∃ s : RelocSym, s.rel = { rel with addend := s.rel.addend } ∧ s.unresolved = false ∧
      s.relocation + s.rel.addend = finalAddress link inp rel.sym rel.addend ∧
      ∀ st, relocateOne link inp st rel = relocatePlain link inp st s := by
  obtain ⟨s, hs, hfound, hifunc, hkept⟩ := hknown rel.addend
  refine ⟨{ s with rel := { rel with addend := s.rel.addend } }, rfl, hfound, ?_, fun st => ?_⟩
  · rw [finalAddress, hs]
  · have hplain : ({ s with rel := { rel with addend := s.rel.addend } } : RelocSym).ifunc = none := hifunc
    unfold relocateOne
    rw [relocSymbol_place hs]
    dsimp only
    rw [hkept, if_neg Bool.false_ne_true, if_neg hfinal, hplain]

/-- Placed, or refused because it does not fit. -/
def OkOrOverflow (outcome : RelocOutcome) : Prop :=
  (∃ st, outcome = .ok st) ∨ ∃ st, outcome = .error (.status .overflow, st)

/-- `tprel` values go through `perform_relocation` as they are. -/
theorem relocatePlain_tprelPart (hfound : s.unresolved = false)
    (htype : s.rel.type = .tprelHi20 ∨ s.rel.type = .tprelLo12I ∨ s.rel.type = .tprelLo12S) :
    relocatePlain link inp st s = doRelocation link inp st s.rel (tpoff link s.relocation) := by
  unfold relocatePlain
  rcases htype with h | h | h
  all_goals
    simp only [h, hfound]
    exact placeRelocation_found _ _

theorem doRelocation_okOrOverflow {fits : Prop} {decodes : Vma → Prop} {value : Vma}
    (hplaced : Placed link.target rel value (link.secAddr inp.sec) st.contents fits decodes) :
    OkOrOverflow (doRelocation link inp st rel value) := by
  unfold doRelocation
  split
  · exact .inl ⟨_, rfl⟩
  · rename_i status contents hne hstatus
    by_cases hfits : fits
    · have hok := hplaced.ok.mpr hfits
      rw [hstatus] at hok
      exact absurd hok hne
    · have hover := hplaced.overflow.mpr hfits
      rw [hstatus] at hover
      dsimp only at hover
      subst hover
      exact .inr ⟨_, rfl⟩

theorem doRelocation_placed {fits : Prop} {decodes : Vma → Prop} {value : Vma} {st' : RelocState}
    (hplaced : Placed link.target rel value (link.secAddr inp.sec) st.contents fits decodes)
    (hrun : doRelocation link inp st rel value = .ok st') :
    fits ∧ decodes (insnWord rel st'.contents) ∧
      ∀ i < (howto rel.type).bitsize, (howto rel.type).dstMask.getLsbD i = false →
        (insnWord rel st'.contents).getLsbD i = (insnWord rel st.contents).getLsbD i := by
  obtain ⟨hok, rfl⟩ := doRelocation_ok hrun
  have hfits := hplaced.ok.mp hok
  exact ⟨hfits, hplaced.field hfits, hplaced.bits⟩

/-- The word differs from the old one in the field of the relocation alone. -/
def FieldOnly (type : RelocType) (before after : Vma) : Prop :=
  ∀ i < 32, (howto type).dstMask.getLsbD i = false → after.getLsbD i = before.getLsbD i

/-- The lui: refused, or the upper immediate of the offset from `tp`. -/
theorem relocateOne_tprelHi (hknown : KnownSymbol link inp rel.sym) (hfinal : link.type ≠ .relocatable)
    (htls : link.tlsSec.isSome) (htype : rel.type = .tprelHi20)
    (hin : rel.offset.toNat + 4 ≤ st.contents.length) :
    OkOrOverflow (relocateOne link inp st rel) ∧ ∀ st', relocateOne link inp st rel = .ok st' →
      InHighRange link.xlen (tpoff link (finalAddress link inp rel.sym rel.addend)) ∧
        extractUtypeImm (getl 4 st'.contents rel.offset.toNat) =
          sext 32 (constHighPart (tpoff link (finalAddress link inp rel.sym rel.addend))) ∧
        FieldOnly rel.type (getl 4 st.contents rel.offset.toNat) (getl 4 st'.contents rel.offset.toNat) := by
  obtain ⟨s, hrel, hfound, haddr, hone⟩ := relocateOne_known hknown hfinal
  have hstype : s.rel.type = .tprelHi20 := by rw [hrel]; exact htype
  have hsoff : s.rel.offset = rel.offset := by rw [hrel]
  have hsin : s.rel.offset.toNat + (howto s.rel.type).bitsize / 8 ≤ st.contents.length := by
    rw [hstype, hsoff]
    exact hin
  have hplaced := @placed_hi20 link.target s.rel st.contents (tpoff link s.relocation) (link.secAddr inp.sec)
    (by rw [hstype]; rfl) hsin
  have hvalue : relocValue s.rel (tpoff link s.relocation) (link.secAddr inp.sec) =
      tpoff link (finalAddress link inp rel.sym rel.addend) := by
    rw [relocValue, hstype, ← haddr, ← tpoff_add htls]
    rfl
  rw [hvalue] at hplaced
  rw [hone, relocatePlain_tprelPart hfound (.inl hstype)]
  refine ⟨doRelocation_okOrOverflow hplaced, fun st' hrun => ?_⟩
  have hword := doRelocation_placed hplaced hrun
  rw [insnWord, insnWord, hstype, hsoff] at hword
  rw [htype]
  exact hword

/-- The low part of a sequence that was not relaxed. -/
theorem relocateOne_tprelLo (hknown : KnownSymbol link inp rel.sym) (hfinal : link.type ≠ .relocatable)
    (htls : link.tlsSec.isSome) (htype : rel.type = .tprelLo12I ∨ rel.type = .tprelLo12S)
    (hin : rel.offset.toNat + 4 ≤ st.contents.length) :
    OkOrOverflow (relocateOne link inp st rel) ∧ ∀ st', relocateOne link inp st rel = .ok st' →
      lowImm rel.type (getl 4 st'.contents rel.offset.toNat) =
          sext 12 (tpoff link (finalAddress link inp rel.sym rel.addend)) ∧
        FieldOnly rel.type (getl 4 st.contents rel.offset.toNat) (getl 4 st'.contents rel.offset.toNat) := by
  obtain ⟨s, hrel, hfound, haddr, hone⟩ := relocateOne_known hknown hfinal
  have hstype : s.rel.type = rel.type := by rw [hrel]
  have hsoff : s.rel.offset = rel.offset := by rw [hrel]
  have hlo : s.rel.type.isLo12I ∨ s.rel.type.isLo12S := by
    rw [hstype]
    rcases htype with h | h
    · exact .inl (by rw [h]; rfl)
    · exact .inr (by rw [h]; rfl)
  have hentry : (howto rel.type).bitsize = 32 ∧ (howto rel.type).pcRelative = false := by
    rcases htype with h | h <;> (rw [h]; exact ⟨rfl, rfl⟩)
  have hplaced := @placed_lo12 link.target s.rel st.contents (tpoff link s.relocation) (link.secAddr inp.sec) hlo
    (by rw [hsoff]; exact hin)
  have hvalue : relocValue s.rel (tpoff link s.relocation) (link.secAddr inp.sec) =
      tpoff link (finalAddress link inp rel.sym rel.addend) := by
    rw [relocValue, hstype, hentry.2, ← haddr, ← tpoff_add htls]
    rfl
  rw [hvalue] at hplaced
  rw [hone, relocatePlain_tprelPart hfound (.inr (hstype ▸ htype))]
  refine ⟨doRelocation_okOrOverflow hplaced, fun st' hrun => ?_⟩
  have hword := (doRelocation_placed hplaced hrun).2
  rw [insnWord, insnWord, hstype, hsoff, hentry.1] at hword
  exact hword

theorem relocateOne_tprelAdd (hknown : KnownSymbol link inp rel.sym) (hfinal : link.type ≠ .relocatable)
    (htype : rel.type = .tprelAdd) : relocateOne link inp st rel = .ok st := by
  obtain ⟨s, hrel, -, -, hone⟩ := relocateOne_known hknown hfinal
  have hstype : s.rel.type = .tprelAdd := by rw [hrel]; exact htype
  rw [hone]
  unfold relocatePlain
  simp only [hstype]

/-- The low part alone: refused, or `tp` is its base register and the immediate is the offset from it. -/
theorem relocateOne_tprel (hknown : KnownSymbol link inp rel.sym) (hfinal : link.type ≠ .relocatable)
    (htls : link.tlsSec.isSome) (htype : rel.type = .tprelI ∨ rel.type = .tprelS)
    (hin : rel.offset.toNat + 4 ≤ st.contents.length) :
    OkOrOverflow (relocateOne link inp st rel) ∧ ∀ st', relocateOne link inp st rel = .ok st' →
      rs1Of (getl 4 st'.contents rel.offset.toNat) = 4 ∧
        lowImm rel.type (getl 4 st'.contents rel.offset.toNat) =
          tpoff link (finalAddress link inp rel.sym rel.addend) ∧
        ∀ i < 32, (howto rel.type).dstMask.getLsbD i = false → ¬ (15 ≤ i ∧ i < 20) →
          (getl 4 st'.contents rel.offset.toNat).getLsbD i = (getl 4 st.contents rel.offset.toNat).getLsbD i := by
  obtain ⟨s, hrel, hfound, haddr, hone⟩ := relocateOne_known hknown hfinal
  have hstype : s.rel.type = rel.type := by rw [hrel]
  have hsoff : s.rel.offset = rel.offset := by rw [hrel]
  have htprel : s.rel.type.isTprel := by
    rw [hstype]
    rcases htype with h | h <;> (rw [h]; rfl)
  have hbase := @basePlaced_tprel link inp st s htprel (by rw [hsoff]; exact hin) htls
  rw [hone]
  cases hrun : relocatePlain link inp st s with
  | error e =>
    rw [hrun] at hbase
    rcases hbase with hover | ⟨-, hun⟩
    · refine ⟨.inr ⟨e.2, by rw [← hover]⟩, fun st' h => ?_⟩
      cases h
    · rw [hfound] at hun
      cases hun
  | ok st₁ =>
    rw [hrun] at hbase
    obtain ⟨reg, hreg, hrebased, -⟩ := hbase
    rw [if_pos htprel] at hreg
    subst hreg
    refine ⟨.inl ⟨st₁, rfl⟩, fun st' h => ?_⟩
    cases h
    rw [hsoff, hstype, haddr] at hrebased
    refine ⟨hrebased.base, ?_, hrebased.rest⟩
    have haddress := hrebased.address
    obtain ⟨tls, htls⟩ := Option.isSome_iff_exists.mp htls
    rw [baseValue, if_neg (by decide), if_pos rfl, htls, Option.getD_some] at haddress
    rw [tpoff, htls, ← haddress]
    dsimp only
    bv_omega

end Final

/-! ## From the first pass to the address -/

namespace TlsAccess

variable (acc : TlsAccess)

/-- The final link of a section: the symbol is known, the high parts still agree, and each instruction of the access
that is still there is written by its own relocation alone. -/
structure Linked (link : Link) (inp : Input) (relocs : List Rela) (st : RelocState) : Prop where
  final : link.type ≠ .relocatable
  segment : link.tlsSec.isSome
  symbol : KnownSymbol link inp acc.sym
  high : constHighPart (tpoff link (finalAddress link inp acc.sym acc.a)) =
    constHighPart (tpoff link (finalAddress link inp acc.sym acc.b))
  inside : Inside link inp relocs st
  alone : ∀ k ∈ [acc.hi, acc.add, acc.lo], ∀ rel, relocs[k]? = some rel → ¬ Gone relocs k →
    OnlyWriter link inp relocs st k rel.offset.toNat
  fresh : st.loRelocs = []

/-- The three instructions come to `tp + offset`, modulo the width of the registers, and apart from the immediates
they are as they were. -/
structure SequenceTo (xlen : Xlen) (offset : Vma) (relocs : List Rela) (before after : List Byte) : Prop where
  address : ∀ hi lo : Rela, relocs[acc.hi]? = some hi → relocs[acc.lo]? = some lo → ∀ tp,
    xlen.Congr (extractUtypeImm (getl 4 after hi.offset.toNat) + tp + lowImm acc.low (getl 4 after lo.offset.toNat))
      (tp + offset)
  lui : ∀ hi : Rela, relocs[acc.hi]? = some hi →
    FieldOnly .tprelHi20 (getl 4 before hi.offset.toNat) (getl 4 after hi.offset.toNat)
  add : ∀ add : Rela, relocs[acc.add]? = some add →
    getl 4 after add.offset.toNat = getl 4 before add.offset.toNat
  low : ∀ lo : Rela, relocs[acc.lo]? = some lo →
    FieldOnly acc.low (getl 4 before lo.offset.toNat) (getl 4 after lo.offset.toNat)

/-- The one instruction that is left comes to `tp + offset`, and apart from immediate and base register it is as it
was. -/
structure DirectTo (offset : Vma) (relocs : List Rela) (before after : List Byte) : Prop where
  base : ∀ lo : Rela, relocs[acc.lo]? = some lo → rs1Of (getl 4 after lo.offset.toNat) = 4
  address : ∀ lo : Rela, relocs[acc.lo]? = some lo → ∀ tp,
    tp + lowImm acc.low (getl 4 after lo.offset.toNat) = tp + offset
  low : ∀ lo : Rela, relocs[acc.lo]? = some lo → ∀ i < 32, (howto acc.low).dstMask.getLsbD i = false →
    ¬ (15 ≤ i ∧ i < 20) →
    (getl 4 after lo.offset.toNat).getLsbD i = (getl 4 before lo.offset.toNat).getLsbD i

variable {acc} {link : Link} {inp : Input} {relocs : List Rela} {st : RelocState}

theorem tprelHi_extent (c : List Byte) (off : Nat) : extent .tprelHi20 c off = 4 := rfl

theorem isTprelLo_extent (type : RelocType) (h : type = .tprelLo12I ∨ type = .tprelLo12S) (c : List Byte) (off : Nat) :
    extent type c off = 4 := by
  rcases h with rfl | rfl <;> rfl

theorem tprelOf_cases (type : RelocType) : tprelOf type = .tprelI ∨ tprelOf type = .tprelS := by
  unfold tprelOf
  split
  · exact .inr rfl
  · exact .inl rfl

theorem tprelOf_extent (type : RelocType) (c : List Byte) (off : Nat) : extent (tprelOf type) c off = 4 := by
  rcases tprelOf_cases type with h | h <;> (rw [h]; rfl)

theorem Whole.not_gone (h : acc.Whole relocs) :
    ¬ Gone relocs acc.hi ∧ ¬ Gone relocs acc.add ∧ ¬ Gone relocs acc.lo := by
  have hne : ∀ {k : Nat} {rel : Rela}, relocs[k]? = some rel → rel.type ≠ .delete → rel.type ≠ .none →
      ¬ Gone relocs k := by
    rintro k rel hrel hdel hnone ⟨offset, type, htype, hk⟩
    rw [hrel, Option.some.injEq] at hk
    subst hk
    rcases htype with rfl | rfl
    · exact hdel rfl
    · exact hnone rfl
  obtain ⟨⟨_, hhi, -⟩, ⟨_, hadd, -⟩, ⟨_, hlo, -⟩⟩ := h
  refine ⟨hne hhi nofun nofun, hne hadd nofun nofun, hne hlo ?_ ?_⟩
  · rcases acc.isLow with hl | hl <;> (dsimp only; rw [hl]; decide)
  · rcases acc.isLow with hl | hl <;> (dsimp only; rw [hl]; decide)

/-- Whatever is left of the access is placed, or an overflow is reported. -/
theorem round_okOrOverflow (hlinked : acc.Linked link inp relocs st) (h : acc.Whole relocs ∨ acc.Short relocs)
    {k : Nat} {rel : Rela} {s : RelocState} (hk : k ∈ [acc.hi, acc.add, acc.lo]) (hrel : relocs[k]? = some rel)
    (hthere : ¬ Gone relocs k) (hs : relocateLoop link inp (relocs.take k) st = .ok s) :
    OkOrOverflow (relocateOne link inp s rel) := by
  have hin := hlinked.inside k rel s hrel hs
  rcases h with ⟨⟨_, hhi, -⟩, ⟨_, hadd, -⟩, ⟨_, hlo, -⟩⟩ | ⟨hhi, hadd, ⟨_, hlo⟩⟩
  · rcases List.mem_cons.mp hk with rfl | hk
    · rw [hhi, Option.some.injEq] at hrel
      subst hrel
      rw [tprelHi_extent] at hin
      exact (relocateOne_tprelHi hlinked.symbol hlinked.final hlinked.segment rfl hin).1
    · rcases List.mem_cons.mp hk with rfl | hk
      · rw [hadd, Option.some.injEq] at hrel
        subst hrel
        exact .inl ⟨s, relocateOne_tprelAdd hlinked.symbol hlinked.final rfl⟩
      · rw [List.mem_singleton.mp hk, hlo, Option.some.injEq] at hrel
        subst hrel
        rw [isTprelLo_extent acc.low acc.isLow] at hin
        exact (relocateOne_tprelLo hlinked.symbol hlinked.final hlinked.segment acc.isLow hin).1
  · rcases List.mem_cons.mp hk with rfl | hk
    · exact absurd hhi hthere
    · rcases List.mem_cons.mp hk with rfl | hk
      · exact absurd hadd hthere
      · rw [List.mem_singleton.mp hk, hlo, Option.some.injEq] at hrel
        subst hrel
        rw [tprelOf_extent] at hin
        exact (relocateOne_tprel hlinked.symbol hlinked.final hlinked.segment (tprelOf_cases acc.low) hin).1

/-- The sequence as it was written leads to the symbol. -/
theorem Whole.sequenceTo (h : acc.Whole relocs) (hlinked : acc.Linked link inp relocs st) {st' : RelocState}
    (hrun : riscvElfRelocateSection link inp relocs st = .ok st') :
    acc.SequenceTo link.xlen (tpoff link (finalAddress link inp acc.sym acc.b)) relocs st.contents st'.contents := by
  obtain ⟨hgoneh, hgonea, hgonel⟩ := h.not_gone
  obtain ⟨⟨offh, hhi, -⟩, ⟨offa, hadd, -⟩, ⟨offl, hlo, -⟩⟩ := h
  have hnotlow : acc.low.isPcrelLo = false := by rcases acc.isLow with hl | hl <;> (rw [hl]; rfl)
  obtain ⟨h₀, h₁, honeh, hinh, hbeforeh, hafterh⟩ := hlinked.inside.section_word
    (hlinked.alone acc.hi (by simp) _ hhi hgoneh) hhi rfl hlinked.fresh hrun
  obtain ⟨a₀, a₁, honea, -, hbeforea, haftera⟩ := hlinked.inside.section_word
    (hlinked.alone acc.add (by simp) _ hadd hgonea) hadd rfl hlinked.fresh hrun
  obtain ⟨l₀, l₁, honel, hinl, hbeforel, hafterl⟩ := hlinked.inside.section_word
    (hlinked.alone acc.lo (by simp) _ hlo hgonel) hlo hnotlow hlinked.fresh hrun
  rw [tprelHi_extent] at hinh
  rw [isTprelLo_extent acc.low acc.isLow] at hinl
  obtain ⟨hrange, hupper, hlui⟩ :=
    (relocateOne_tprelHi hlinked.symbol hlinked.final hlinked.segment rfl hinh).2 h₁ honeh
  obtain ⟨hlower, hlow⟩ :=
    (relocateOne_tprelLo hlinked.symbol hlinked.final hlinked.segment acc.isLow hinl).2 l₁ honel
  rw [relocateOne_tprelAdd hlinked.symbol hlinked.final rfl] at honea
  cases honea
  dsimp only at hrange hupper hlui hlower hlow hbeforeh hafterh hbeforea haftera hbeforel hafterl
  rw [hlinked.high] at hupper
  have hrange' : InHighRange link.xlen (tpoff link (finalAddress link inp acc.sym acc.b)) := by
    intro hx
    have hvalid := (validUtypeImm_constHighPart_iff _).mpr (hrange hx)
    rw [hlinked.high] at hvalid
    exact (validUtypeImm_constHighPart_iff _).mp hvalid
  constructor
  · intro hi lo hhi' hlo' tp
    cases hhi.symm.trans hhi'
    cases hlo.symm.trans hlo'
    rw [hafterh, hafterl, hupper, hlower, BitVec.add_comm _ tp, BitVec.add_assoc, Xlen.congr_add_left]
    exact sext_high_add_low hrange'
  · intro hi hhi'
    cases hhi.symm.trans hhi'
    rw [← hbeforeh, hafterh]
    exact hlui
  · intro add hadd'
    cases hadd.symm.trans hadd'
    rw [← hbeforea, haftera]
  · intro lo hlo'
    cases hlo.symm.trans hlo'
    rw [← hbeforel, hafterl]
    exact hlow

/-- The low part alone leads there too. -/
theorem Short.directTo (h : acc.Short relocs) (hlinked : acc.Linked link inp relocs st) {st' : RelocState}
    (hrun : riscvElfRelocateSection link inp relocs st = .ok st') :
    acc.DirectTo (tpoff link (finalAddress link inp acc.sym acc.b)) relocs st.contents st'.contents := by
  obtain ⟨-, -, ⟨offl, hlo⟩⟩ := h
  have hcases := tprelOf_cases acc.low
  have hthere : ¬ Gone relocs acc.lo := by
    rintro ⟨offset, type, htype, hk⟩
    rw [hlo, Option.some.injEq] at hk
    have hsame := congrArg Rela.type hk
    dsimp only at hsame
    rcases hcases with hc | hc <;> rcases htype with rfl | rfl <;> (rw [hc] at hsame; cases hsame)
  have hnotlow : (tprelOf acc.low).isPcrelLo = false := by rcases hcases with hc | hc <;> (rw [hc]; rfl)
  obtain ⟨l₀, l₁, honel, hinl, hbeforel, hafterl⟩ := hlinked.inside.section_word
    (hlinked.alone acc.lo (by simp) _ hlo hthere) hlo hnotlow hlinked.fresh hrun
  rw [tprelOf_extent] at hinl
  obtain ⟨hbase, hlower, hlow⟩ :=
    (relocateOne_tprel hlinked.symbol hlinked.final hlinked.segment hcases hinl).2 l₁ honel
  dsimp only at hbase hlower hlow hbeforel hafterl
  have hformat : lowImm (tprelOf acc.low) = lowImm acc.low ∧
      (howto (tprelOf acc.low)).dstMask = (howto acc.low).dstMask := by
    rcases acc.isLow with hl | hl <;> (rw [hl]; exact ⟨rfl, rfl⟩)
  rw [hformat.1] at hlower
  rw [hformat.2] at hlow
  constructor
  · intro lo hlo'
    cases hlo.symm.trans hlo'
    rw [hafterl]
    exact hbase
  · intro lo hlo' tp
    cases hlo.symm.trans hlo'
    rw [hafterl, hlower]
  · intro lo hlo' i hi hmask hreg
    cases hlo.symm.trans hlo'
    rw [← hbeforel, hafterl]
    exact hlow i hi hmask hreg

end TlsAccess

/-- An access to a thread-local symbol, in any order of its relocations: in every pass the lui and the add are marked
to be deleted exactly when the low part is made relative to `tp`; so that after any number of passes, with whatever
moves in between, it is there as it was written or the low part alone.  In the end it is placed, or an overflow is
reported; and either way it leads to `tp` plus the offset of `S + b`. -/
theorem tlsLe_exact (acc : TlsAccess) {info : SecInfo} {st st' : SecState} (hwhole : acc.Whole st.relocs)
    (hrun : Relaxing info acc.Steady st st') :
    (acc.Whole st'.relocs ∨ acc.Short st'.relocs) ∧
      (acc.Whole st'.relocs → ∀ (link : Link) (inp : Input) (maxAlignment : Vma) (pass : PassState),
        acc.Steady link inp →
        (TlsAccess.Deleted st'.relocs (relaxRelocs link inp maxAlignment pass st'.relocs).2 acc.hi ↔
            acc.Rewritten st'.relocs (relaxRelocs link inp maxAlignment pass st'.relocs).2) ∧
          (TlsAccess.Deleted st'.relocs (relaxRelocs link inp maxAlignment pass st'.relocs).2 acc.add ↔
            acc.Rewritten st'.relocs (relaxRelocs link inp maxAlignment pass st'.relocs).2)) ∧
      ∀ (link : Link) (inp : Input) (rst : RelocState), acc.Linked link inp st'.relocs rst →
        (∀ k ∈ [acc.hi, acc.add, acc.lo], ∀ rel s, st'.relocs[k]? = some rel → ¬ TlsAccess.Gone st'.relocs k →
          relocateLoop link inp (st'.relocs.take k) rst = .ok s → OkOrOverflow (relocateOne link inp s rel)) ∧
        ∀ rst', riscvElfRelocateSection link inp st'.relocs rst = .ok rst' →
          (acc.Whole st'.relocs → acc.SequenceTo link.xlen (tpoff link (finalAddress link inp acc.sym acc.b))
            st'.relocs rst.contents rst'.contents) ∧
          (acc.Short st'.relocs → acc.DirectTo (tpoff link (finalAddress link inp acc.sym acc.b))
            st'.relocs rst.contents rst'.contents) := by
  have hstate := hwhole.relaxing hrun
  refine ⟨hstate, fun h link inp maxAlignment pass hsteady => h.pass_iff hsteady maxAlignment pass,
    fun link inp rst hlinked => ⟨?_, fun rst' hfinal => ⟨?_, ?_⟩⟩⟩
  · intro k hk rel s hrel hthere hs
    exact TlsAccess.round_okOrOverflow hlinked hstate hk hrel hthere hs
  · exact fun h => h.sequenceTo hlinked hfinal
  · exact fun h => h.directTo hlinked hfinal

/-- The code at 0x10000 and the thread-local data at 0x20000. -/
def tlsLink : Link where
  xlen := .rv64
  sections := fun n => { output := some n }
  outputs := fun n => { vma := if n = 0 then 0x10000 else 0x20000 }
  ownerSections := [0, 1]
  absSection := 9
  absOutput := 9
  undSection := 8
  splt := 7
  tlsSec := some 0x20000

/-- `x`, 16 bytes into the thread-local data. -/
def tlsInput : Input where
  sec := 0
  elfSections := fun shndx => shndx - 1
  locals := [⟨0, 0, 0, .notype⟩, ⟨0x10, 8, 2, .tls⟩]
  symHashes := []
  hashes := []

/-- `lw a1, %tprel_lo(x+4)(a0)` in front of `lui a0, %tprel_hi(x)` and `add a0, a0, tp, %tprel_add(x)`. -/
def tlsSection : SecState where
  size := 12
  contents := [0x83, 0x25, 0x05, 0, 0x37, 0x05, 0, 0, 0x33, 0x05, 0x45, 0]
  relocs := [⟨0, 1, .tprelLo12I, 4⟩, ⟨0, 0, .relax, 0⟩, ⟨4, 1, .tprelHi20, 0⟩, ⟨4, 0, .relax, 0⟩,
    ⟨8, 1, .tprelAdd, 0⟩, ⟨8, 0, .relax, 0⟩]
  locals := tlsInput.locals
  hashes := []

def tlsAccess : TlsAccess := ⟨1, 0, 4, 2, 4, 0, .tprelLo12I, .inl rfl⟩

def tlsInfo : SecInfo := { sec := 0, shndx := 1, symHashes := [] }

/-- What is left of the section after one pass. -/
def tlsRelaxed : SecState := relaxPass tlsInfo tlsLink tlsInput 1 { contents := [] } tlsSection

def tlsState : RelocState where
  contents := tlsSection.contents.take 4

theorem tlsRelaxed_relocs : tlsRelaxed.relocs =
    [⟨0, 1, .tprelI, 4⟩, ⟨0, 0, .relax, 0⟩, ⟨4, 0, .none, 4⟩, ⟨4, 0, .relax, 0⟩, ⟨4, 0, .none, 4⟩,
      ⟨4, 0, .relax, 0⟩] := by
  decide

theorem tlsAccess_whole : tlsAccess.Whole tlsSection.relocs where
  hi := ⟨4, rfl, ⟨4, 0, .relax, 0⟩, rfl, rfl, rfl⟩
  add := ⟨8, rfl, ⟨8, 0, .relax, 0⟩, rfl, rfl, rfl⟩
  lo := ⟨0, rfl, ⟨0, 0, .relax, 0⟩, rfl, rfl, rfl⟩

theorem tlsAccess_steady : tlsAccess.Steady tlsLink tlsInput where
  defined := by
    rintro isym ⟨⟩
    decide
  high := by
    rintro s ⟨⟩
    decide

theorem tlsAccess_linked : tlsAccess.Linked tlsLink tlsInput tlsRelaxed.relocs tlsState := by
  have hlength : ∀ k < 6, ((relocateLoop tlsLink tlsInput (tlsRelaxed.relocs.take k) tlsState).toOption.map
      fun s => s.contents.length) = some 4 := by decide
  have hrounds : ∀ k rel s, tlsRelaxed.relocs[k]? = some rel →
      relocateLoop tlsLink tlsInput (tlsRelaxed.relocs.take k) tlsState = .ok s →
      s.contents.length = 4 ∧ (k = 0 ∧ rel = ⟨0, 1, .tprelI, 4⟩ ∨ (howto rel.type).bitsize = 0 ∧
        rel.type ≠ .subUleb128 ∧ (rel.offset = 0 ∨ rel.offset = 4)) := by
    intro k rel s hrel hs
    have hk : k < 6 := by
      rw [tlsRelaxed_relocs] at hrel
      exact (List.getElem?_eq_some_iff.mp hrel).1
    have hlen := hlength k hk
    rw [hs] at hlen
    refine ⟨Option.some.inj hlen, ?_⟩
    rw [tlsRelaxed_relocs] at hrel
    match k with
    | 0 => exact .inl ⟨rfl, (Option.some.inj hrel).symm⟩
    | 1 | 2 | 3 | 4 | 5 =>
      cases hrel
      exact .inr (by decide)
  refine ⟨by decide, rfl, fun addend => ⟨_, rfl, rfl, rfl, rfl⟩, by decide, ?_, ?_, rfl⟩
  · intro k rel s hrel hs
    obtain ⟨hlen, ⟨-, rfl⟩ | ⟨hsize, htype, hoff⟩⟩ := hrounds k rel s hrel hs
    · rw [hlen]
      exact (by decide : 0 + 4 ≤ 4)
    · rw [hlen, extent, if_neg htype, hsize]
      rcases hoff with hoff | hoff <;> (rw [hoff]; decide)
  · intro k hk rel hrel hthere j rel' s hrel' hs hne
    -- the other two are gone, and what is at their places writes nothing
    have hlo : k = 0 := by
      rw [tlsRelaxed_relocs] at hthere
      rcases List.mem_cons.mp hk with rfl | hk
      · exact absurd ⟨4, .none, .inr rfl, rfl⟩ hthere
      · rcases List.mem_cons.mp hk with rfl | hk
        · exact absurd ⟨4, .none, .inr rfl, rfl⟩ hthere
        · exact List.mem_singleton.mp hk
    subst hlo
    rw [tlsRelaxed_relocs] at hrel
    cases hrel
    obtain ⟨-, ⟨hj, -⟩ | ⟨hsize, htype, hoff⟩⟩ := hrounds j rel' s hrel' hs
    · exact absurd hj hne
    · rw [Rela.WritesApart, extent, if_neg htype, hsize]
      rcases hoff with hoff | hoff <;> (rw [hoff]; decide)

/-- The lui and the add are gone, and the load reads 20 bytes behind `tp`. -/
theorem tlsAccess_direct : Relaxing tlsInfo tlsAccess.Steady tlsSection tlsRelaxed ∧
    tlsAccess.Linked tlsLink tlsInput tlsRelaxed.relocs tlsState ∧
    ∃ rst, riscvElfRelocateSection tlsLink tlsInput tlsRelaxed.relocs tlsState = .ok rst ∧
      tlsAccess.DirectTo 0x14 tlsRelaxed.relocs tlsState.contents rst.contents := by
  have hrun : Relaxing tlsInfo tlsAccess.Steady tlsSection tlsRelaxed :=
    .pass .start tlsLink tlsInput 1 { contents := [] } tlsAccess_steady
  obtain ⟨-, -, hlinked⟩ := tlsLe_exact tlsAccess tlsAccess_whole hrun
  refine ⟨hrun, tlsAccess_linked, ?_⟩
  cases hfinal : riscvElfRelocateSection tlsLink tlsInput tlsRelaxed.relocs tlsState with
  | error e =>
    have hok : (riscvElfRelocateSection tlsLink tlsInput tlsRelaxed.relocs tlsState).isOk = true := by decide
    rw [hfinal] at hok
    exact absurd hok (by simp [Except.isOk, Except.toBool])
  | ok rst =>
    have hshort : tlsAccess.Short tlsRelaxed.relocs := by
      rw [tlsRelaxed_relocs]
      exact ⟨⟨4, .none, .inr rfl, rfl⟩, ⟨4, .none, .inr rfl, rfl⟩, ⟨0, rfl⟩⟩
    exact ⟨rst, rfl, ((hlinked tlsLink tlsInput tlsState tlsAccess_linked).2 rst hfinal).2 hshort⟩

end RiscvBinutils.Bfd
