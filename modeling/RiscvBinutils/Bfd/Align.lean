/-
The alignment pass of the linker (bfd/elfnn-riscv.c, `_bfd_riscv_relax_align` and pass 1 of
`_bfd_riscv_relax_section`), and what the passes before it leave of the `R_RISCV_ALIGN` relocations.
-/
import RiscvBinutils.Bfd.Distance
import RiscvBinutils.Bfd.Relax

namespace RiscvBinutils.Bfd

open RiscvBinutils.Base

/-! ## The code -/

/-- The loop that finds the alignment; `none` when it has not ended after `fuel` rounds. -/
def alignmentLoop (addend : Vma) : (fuel : Nat) → (alignment : Vma) → Option Vma
  | 0, _ => none
  | fuel + 1, alignment => if alignment ≤ addend then alignmentLoop addend fuel (alignment * 2) else some alignment

/-- `nop_bytes`; `symval` is where the NOPs start. -/
def nopBytes (alignment symval : Vma) : Vma := ((symval - 1) &&& ~~~(alignment - 1)) + alignment - symval

def riscvNop : Vma := 0x13
def rvcNop : Vma := 0x1

/-- The loop that writes NOPs of four bytes, `n` of them. -/
def putNops (offset : Nat) : (n : Nat) → List Byte → List Byte
  | 0, contents => contents
  | n + 1, contents => putNops (offset + 4) n (putl 4 riscvNop contents offset)

/-- As many NOPs as are needed, with one of two bytes at the end if need be. -/
def writeNops (offset bytes : Nat) (contents : List Byte) : List Byte :=
  let contents := putNops offset (bytes / 4) contents
  if bytes % 4 ≠ 0 then putl 2 rvcNop contents (offset + bytes / 4 * 4) else contents

inductive AlignError
  /-- The loop does not end. -/
  | loops
  /-- "%d bytes required for alignment to %d-byte boundary, but only %d present". -/
  | notEnough (nopBytes alignment addend : Vma)
  deriving DecidableEq, Repr

/-- `_bfd_riscv_relax_align`, on relocation `i`. -/
def bfdRiscvRelaxAlign (info : SecInfo) (st : SecState) (i : Nat) (rel : Rela) (symval : Vma) :
    Except AlignError SecState :=
  match alignmentLoop rel.addend 65 1 with
  | none => .error .loops
  | some alignment =>
    let nops := nopBytes alignment (symval - rel.addend)
    if rel.addend < nops then .error (.notEnough nops alignment rel.addend)
    else
      let st := setInfo st i .none
      if nops = rel.addend then .ok st
      else
        let st := { st with contents := writeNops rel.offset.toNat nops.toNat st.contents }
        .ok (riscvRelaxDeleteImmediate info st (rel.offset + nops) (rel.addend - nops) none none).1

/-- Round `i` of pass 1.  The assembler gives the relocation no symbol, that is symbol zero, which is undefined:
`sym_sec` is the section and `symval` starts as `r_offset`. -/
def alignRound (info : SecInfo) (secAddr : Vma) (st : SecState) (i : Nat) : Except AlignError SecState :=
  match st.relocs[i]? with
  | none => .ok st
  | some rel =>
    if rel.type = .align then bfdRiscvRelaxAlign info st i rel (rel.offset + rel.addend + secAddr) else .ok st

/-- The rounds of pass 1 before round `i`. -/
def alignRounds (info : SecInfo) (secAddr : Vma) (st : SecState) (i : Nat) : Except AlignError SecState :=
  (List.range i).foldlM (alignRound info secAddr) st

/-- Pass 0, with the deletion of what it has marked. -/
def relaxPass (info : SecInfo) (link : Link) (inp : Input) (maxAlignment : Vma) (pass : PassState) (st : SecState) :
    SecState :=
  let out := relaxRelocs link inp maxAlignment { pass with contents := st.contents } st.relocs
  riscvRelaxResolveDeleteRelocs info { st with contents := out.1.contents, relocs := out.2 }

/-- What may have happened to a section before pass 1: runs of pass 0, each with the layout of its time, and in
general any deletion of an even number of bytes. -/
inductive Relaxed (info : SecInfo) (st : SecState) : SecState → Prop
  | start : Relaxed info st st
  | delete {st' : SecState} (h : Relaxed info st st') (c : DeleteCall) (heven : c.count.toNat % 2 = 0) :
    Relaxed info st (deleteCall info st' c)
  | pass {st' : SecState} (h : Relaxed info st st') (link : Link) (inp : Input) (maxAlignment : Vma)
      (pass : PassState) : Relaxed info st (relaxPass info link inp maxAlignment pass st')

/-! ## The number of NOPs -/

section Nops

variable {n : Nat}

/-- The loop stops at the first power of two beyond the addend. -/
theorem alignmentLoop_eq {addend : Vma} {fuel k : Nat} (hn : n < 64) (hlow : ∀ m < n, 2 ^ m ≤ addend.toNat)
    (hhigh : addend.toNat < 2 ^ n) (hk : k ≤ n) (hfuel : n - k < fuel) :
    alignmentLoop addend fuel (1#64 <<< k) = some (1#64 <<< n) := by
  induction fuel generalizing k with
  | zero => omega
  | succ fuel ih =>
    have hle : 1#64 <<< k ≤ addend ↔ 2 ^ k ≤ addend.toNat := by
      rw [BitVec.le_def, toNat_shiftLeft_one (by omega)]
    rw [alignmentLoop]
    rcases Nat.lt_or_eq_of_le hk with hlt | rfl
    · rw [if_pos (hle.mpr (hlow k hlt)), shiftLeft_one_mul_two]
      exact ih (by omega) (by omega)
    · rw [if_neg (by rw [hle]; omega)]

/-- The NOPs that are needed bring the address to the next multiple. -/
theorem nopBytes_spec (hn : n < 64) (symval : Vma) :
    (nopBytes (1#64 <<< n) symval).toNat < 2 ^ n ∧
      (symval.toNat + (nopBytes (1#64 <<< n) symval).toNat) % 2 ^ n = 0 := by
  have hpow : 2 ^ n < 2 ^ 64 := Nat.pow_lt_pow_right (by decide) hn
  have hbase : ((symval - 1) &&& ~~~((1#64 <<< n) - 1)).toNat = (symval - 1).toNat / 2 ^ n * 2 ^ n :=
    toNat_and_not_mask (symval - 1) hn
  have hlast : symval.toNat = ((symval - 1).toNat + 1) % 2 ^ 64 := by
    have hlt := symval.isLt
    have hpred : (symval - 1).toNat = (2 ^ 64 - 1 + symval.toNat) % 2 ^ 64 := BitVec.toNat_sub symval 1
    omega
  have hdiv := Nat.div_add_mod' (symval - 1).toNat (2 ^ n)
  have hmod := Nat.mod_lt (symval - 1).toNat (Nat.two_pow_pos n)
  have hnops : (nopBytes (1#64 <<< n) symval).toNat = 2 ^ n - 1 - (symval - 1).toNat % 2 ^ n := by
    have hlt := (symval - 1).isLt
    rw [nopBytes, BitVec.toNat_sub, BitVec.toNat_add, hbase, toNat_shiftLeft_one hn]
    omega
  refine ⟨by omega, ?_⟩
  have hsum : (symval - 1).toNat + 1 + (2 ^ n - 1 - (symval - 1).toNat % 2 ^ n) =
      ((symval - 1).toNat / 2 ^ n + 1) * 2 ^ n := by
    rw [Nat.add_mul, one_mul]
    omega
  rw [hnops, hlast, Nat.add_mod, Nat.mod_mod_of_dvd _ (Nat.pow_dvd_pow 2 hn.le), ← Nat.add_mod, hsum,
    Nat.mul_mod_left]

end Nops

/-! ## What the passes before it keep -/

/-- An `R_RISCV_ALIGN` stays one, with its addend, and moves by an even number of bytes; nothing becomes one. -/
structure Kept (r r' : Rela) : Prop where
  align_iff : r'.type = .align ↔ r.type = .align
  addend : r.type = .align → r'.addend = r.addend
  parity : r.type = .align → r'.offset.toNat % 2 = r.offset.toNat % 2

/-- From index `i` on. -/
structure KeptFrom (i : Nat) (relocs relocs' : List Rela) : Prop where
  length : relocs'.length = relocs.length
  kept : ∀ j r r', i ≤ j → relocs[j]? = some r → relocs'[j]? = some r' → Kept r r'

/-- A mark stands for an even number of bytes. -/
def EvenMark (r : Rela) : Prop := r.type = .delete → r.addend.toNat % 2 = 0

section Kept

variable {relocs relocs' : List Rela} {i : Nat}

theorem Kept.refl (r : Rela) : Kept r r := ⟨Iff.rfl, fun _ => rfl, fun _ => rfl⟩

theorem Kept.trans {r r' r'' : Rela} (h : Kept r r') (h' : Kept r' r'') : Kept r r'' where
  align_iff := h'.align_iff.trans h.align_iff
  addend ha := (h'.addend (h.align_iff.mpr ha)).trans (h.addend ha)
  parity ha := (h'.parity (h.align_iff.mpr ha)).trans (h.parity ha)

theorem Kept.of_ne {r r' : Rela} (h : r.type ≠ .align) (h' : r'.type ≠ .align) : Kept r r' where
  align_iff := iff_of_false h' h
  addend ha := absurd ha h
  parity ha := absurd ha h

theorem KeptFrom.refl (i : Nat) (relocs : List Rela) : KeptFrom i relocs relocs := by
  refine ⟨rfl, ?_⟩
  intro j r r' _ hr hr'
  rw [hr] at hr'
  cases hr'
  exact .refl r

theorem KeptFrom.trans {relocs'' : List Rela} (h : KeptFrom i relocs relocs') (h' : KeptFrom i relocs' relocs'') :
    KeptFrom i relocs relocs'' := by
  refine ⟨h'.length.trans h.length, ?_⟩
  intro j r r'' hj hr hr''
  have hlt : j < relocs'.length := by
    rw [h.length]
    exact (List.getElem?_eq_some_iff.mp hr).1
  have hr' := List.getElem?_eq_getElem hlt
  exact (h.kept j r _ hj hr hr').trans (h'.kept j _ r'' hj hr' hr'')

theorem KeptFrom.mono {k : Nat} (h : KeptFrom i relocs relocs') (hik : i ≤ k) : KeptFrom k relocs relocs' :=
  ⟨h.length, fun j r r' hj => h.kept j r r' (hik.trans hj)⟩

theorem keptFrom_map {f : Rela → Rela} (h : ∀ r, Kept r (f r)) (i : Nat) (relocs : List Rela) :
    KeptFrom i relocs (relocs.map f) := by
  refine ⟨List.length_map f, ?_⟩
  intro j r r' _ hr hr'
  rw [List.getElem?_map, hr] at hr'
  cases hr'
  exact h r

theorem keptFrom_of_forall₂ (h : List.Forall₂ Kept relocs relocs') : KeptFrom 0 relocs relocs' := by
  refine ⟨h.length_eq.symm, ?_⟩
  intro j r r' _ hr hr'
  obtain ⟨hj, rfl⟩ := List.getElem?_eq_some_iff.mp hr
  obtain ⟨hj', rfl⟩ := List.getElem?_eq_some_iff.mp hr'
  exact h.get hj hj'

/-- Words keep their parity when an even number is taken away. -/
theorem toNat_sub_even {x y : Vma} (h : y.toNat % 2 = 0) : (x - y).toNat % 2 = x.toNat % 2 := by
  have hlt := y.isLt
  rw [BitVec.toNat_sub]
  omega

theorem adjustRela_kept {addr count toaddr : Vma} (heven : count.toNat % 2 = 0) (r : Rela) :
    Kept r (adjustRela addr count toaddr r) := by
  unfold adjustRela
  split
  · exact ⟨Iff.rfl, fun _ => rfl, fun _ => toNat_sub_even heven⟩
  · exact .refl r

theorem adjustRela_evenMark {addr count toaddr : Vma} {r : Rela} (h : EvenMark r) :
    EvenMark (adjustRela addr count toaddr r) := by
  unfold adjustRela
  split <;> exact h

theorem modify_kept {f : Rela → Rela} (k : Nat) (relocs : List Rela)
    (h : ∀ r, i ≤ k → relocs[k]? = some r → Kept r (f r)) : KeptFrom i relocs (relocs.modify k f) := by
  refine ⟨List.length_modify .., ?_⟩
  intro j r r' hj hr hr'
  rw [List.getElem?_modify, hr] at hr'
  have hnew : (if k = j then f r else r) = r' := Option.some.inj hr'
  rw [← hnew]
  split
  · rename_i hkj
    subst hkj
    exact h r hj hr
  · exact .refl r

/-! ### Pass 0 -/

/-- What the relaxation functions make of their relocations. -/
def Harmless (r : Rela) : Prop := r.type ≠ .align ∧ EvenMark r

theorem harmless_mark (rel : Rela) (addr : Vma) {count : Vma} (heven : count.toNat % 2 = 0) :
    Harmless (riscvRelaxDeletePiecewise rel addr count) := by
  refine ⟨?_, fun _ => heven⟩
  change RelocType.delete ≠ .align
  decide

theorem harmless_of_type {r : Rela} {type : RelocType} (htype : r.type = type) (h : type ≠ .align ∧ type ≠ .delete) :
    Harmless r := by
  refine ⟨by rw [htype]; exact h.1, ?_⟩
  intro hdel
  exact absurd (htype.symm.trans hdel) h.2

theorem harmless_setType (rel : Rela) (type : RelocType) (h : type ≠ .align ∧ type ≠ .delete) :
    Harmless (rel.setType type) := harmless_of_type rfl h

variable {link : Link} {inp : Input} {args : RelaxArgs} {st : PassState} {rel next : Rela}

theorem callChoice_type (foff rd : Vma) : (callChoice link inp foff rd).1 ≠ .align ∧
    (callChoice link inp foff rd).1 ≠ .delete ∧
    (BitVec.ofNat 64 (8 - (callChoice link inp foff rd).2.2)).toNat % 2 = 0 := by
  unfold callChoice
  split
  · simp
  · split <;> simp

theorem relaxCall_harmless (hrel : Harmless rel) (hnext : Harmless next) :
    Harmless (bfdRiscvRelaxCall link inp args st rel next).rel ∧
      Harmless (bfdRiscvRelaxCall link inp args st rel next).next := by
  unfold bfdRiscvRelaxCall
  dsimp only
  split
  · exact ⟨hrel, hnext⟩
  · have hchoice := @callChoice_type link inp (callOffset link inp args rel)
      (rdOf (getl 4 st.contents (rel.offset.toNat + 4)))
    exact ⟨harmless_setType rel _ ⟨hchoice.1, hchoice.2.1⟩, harmless_mark next _ hchoice.2.2⟩

theorem relaxCLui_harmless (hrel : Harmless rel) (hnext : Harmless next) :
    Harmless (relaxCLui st rel next).rel ∧ Harmless (relaxCLui st rel next).next := by
  unfold relaxCLui
  dsimp only
  split
  · exact ⟨hrel, hnext⟩
  · exact ⟨harmless_setType rel .rvcLui (by decide), harmless_mark next _ rfl⟩

theorem relaxLui_harmless (hrel : Harmless rel) (hnext : Harmless next) :
    Harmless (bfdRiscvRelaxLui link inp args st rel next).rel ∧
      Harmless (bfdRiscvRelaxLui link inp args st rel next).next := by
  unfold bfdRiscvRelaxLui
  dsimp only
  split
  · split
    · exact ⟨harmless_setType rel .gprelI (by decide), hnext⟩
    · exact ⟨harmless_setType rel .gprelS (by decide), hnext⟩
    · exact ⟨harmless_mark rel _ rfl, hnext⟩
  · split
    · exact relaxCLui_harmless hrel hnext
    · exact ⟨hrel, hnext⟩

theorem relaxTlsLe_harmless (hrel : Harmless rel) (hnext : Harmless next) :
    Harmless (bfdRiscvRelaxTlsLe link args st rel next).rel ∧
      Harmless (bfdRiscvRelaxTlsLe link args st rel next).next := by
  unfold bfdRiscvRelaxTlsLe
  split
  · exact ⟨hrel, hnext⟩
  · split
    · exact ⟨harmless_setType rel .tprelI (by decide), hnext⟩
    · exact ⟨harmless_setType rel .tprelS (by decide), hnext⟩
    · exact ⟨harmless_mark rel _ rfl, hnext⟩

theorem relaxPcLo_harmless {type : RelocType} (htype : type ≠ .align ∧ type ≠ .delete) (hrel : Harmless rel)
    (hnext : Harmless next) : Harmless (relaxPcLo link args st rel next type).rel ∧
      Harmless (relaxPcLo link args st rel next type).next := by
  unfold relaxPcLo
  dsimp only
  split
  · exact ⟨hrel, hnext⟩
  · split
    · exact ⟨@harmless_of_type _ type rfl htype, hnext⟩
    · exact ⟨hrel, hnext⟩

theorem relaxPcHi_harmless (hrel : Harmless rel) (hnext : Harmless next) :
    Harmless (relaxPcHi link args st rel next).rel ∧ Harmless (relaxPcHi link args st rel next).next := by
  unfold relaxPcHi
  dsimp only
  split
  · exact ⟨hrel, hnext⟩
  · split
    · exact ⟨hrel, hnext⟩
    · split
      · exact ⟨harmless_mark rel _ rfl, hnext⟩
      · exact ⟨hrel, hnext⟩

theorem relaxPair_harmless (maxAlignment : Vma) (func : RelaxFunc) (hrel : Harmless rel) (hnext : Harmless next) :
    Harmless (relaxPair link inp maxAlignment func st rel next).rel ∧
      Harmless (relaxPair link inp maxAlignment func st rel next).next := by
  unfold relaxPair
  dsimp only
  split
  · exact ⟨hrel, hnext⟩
  · unfold applyRelaxFunc
    split
    · exact relaxCall_harmless hrel hnext
    · exact relaxLui_harmless hrel hnext
    · exact relaxTlsLe_harmless hrel hnext
    · unfold bfdRiscvRelaxPc
      split
      · exact relaxPcLo_harmless (by decide) hrel hnext
      · exact relaxPcLo_harmless (by decide) hrel hnext
      · exact relaxPcHi_harmless hrel hnext

/-- A relocation that is relaxed is neither an alignment nor a mark. -/
theorem harmless_of_relaxFuncFor {func : RelaxFunc} (h : relaxFuncFor link rel next = some func) :
    Harmless rel ∧ Harmless next := by
  obtain ⟨hnext, -, hrel⟩ := relaxFuncFor_eq_some h
  refine ⟨harmless_of_type rfl ?_, harmless_of_type hnext (by decide)⟩
  constructor
  · intro htype
    rw [htype] at hrel
    cases hrel
  · intro htype
    rw [htype] at hrel
    cases hrel

/-- The loop of pass 0. -/
theorem relaxRelocs_kept (maxAlignment : Vma) (st : PassState) (relocs : List Rela)
    (hmarks : ∀ r ∈ relocs, EvenMark r) :
    List.Forall₂ Kept relocs (relaxRelocs link inp maxAlignment st relocs).2 ∧
      ∀ r ∈ (relaxRelocs link inp maxAlignment st relocs).2, EvenMark r := by
  induction st, relocs using relaxRelocs.induct link inp maxAlignment with
  | case1 st => exact ⟨.nil, hmarks⟩
  | case2 st rel => exact ⟨.cons (.refl rel) .nil, hmarks⟩
  | case3 st rel next rest hfunc ih =>
    obtain ⟨hkept, heven⟩ := ih fun r hr => hmarks r (List.mem_cons_of_mem _ hr)
    rw [relaxRelocs, hfunc]
    refine ⟨.cons (.refl rel) hkept, ?_⟩
    intro r hr
    rcases List.mem_cons.mp hr with rfl | hr
    · exact hmarks r (List.mem_cons_self ..)
    · exact heven r hr
  | case4 st rel next rest func hfunc _ ih =>
    obtain ⟨hrel, hnext⟩ := harmless_of_relaxFuncFor hfunc
    obtain ⟨hrel', hnext'⟩ := @relaxPair_harmless link inp st rel next maxAlignment func hrel hnext
    obtain ⟨hkept, heven⟩ := ih fun r hr => hmarks r (List.mem_cons_of_mem _ (List.mem_cons_of_mem _ hr))
    rw [relaxRelocs, hfunc]
    refine ⟨.cons (.of_ne hrel.1 hrel'.1) (.cons (.of_ne hnext.1 hnext'.1) hkept), ?_⟩
    intro r hr
    rcases List.mem_cons.mp hr with rfl | hr
    · exact hrel'.2
    · rcases List.mem_cons.mp hr with rfl | hr
      · exact hnext'.2
      · exact heven r hr

/-- A round of the sweep over the marks. -/
theorem resolveMark_kept {info : SecInfo} {st : SecState} {deleteTotal toaddr : Vma}
    (hmarks : ∀ r ∈ st.relocs, EvenMark r) (hrel : st.relocs[i]? = some rel) (hdel : rel.isDelete = true) :
    KeptFrom 0 st.relocs (resolveMark info st i rel deleteTotal toaddr).relocs ∧
      ∀ r ∈ (resolveMark info st i rel deleteTotal toaddr).relocs, EvenMark r := by
  have htype : rel.type = .delete := by simpa [Rela.isDelete] using hdel
  have heven : rel.addend.toNat % 2 = 0 := hmarks rel (List.mem_of_getElem? hrel) htype
  have hrelocs : (resolveMark info st i rel deleteTotal toaddr).relocs =
      (st.relocs.map (adjustRela rel.offset rel.addend st.size)).modify i fun r =>
      { r with sym := 0, type := .none } := by
    rw [← deleteBytes_relocs info st rel.offset rel.addend none deleteTotal toaddr]
    rfl
  have hmap := keptFrom_map (fun r => @adjustRela_kept rel.offset rel.addend st.size heven r) 0 st.relocs
  rw [hrelocs]
  refine ⟨hmap.trans (modify_kept i _ ?_), ?_⟩
  · intro r _ hr
    rw [List.getElem?_map, hrel] at hr
    cases hr
    refine .of_ne ?_ (fun hnone => by cases hnone)
    unfold adjustRela
    split <;> simp [htype]
  · intro r hr
    obtain ⟨k, hk⟩ := List.mem_iff_getElem?.mp hr
    rw [List.getElem?_modify, List.getElem?_map] at hk
    cases hold : st.relocs[k]? with
    | none =>
      rw [hold] at hk
      cases hk
    | some old =>
      rw [hold] at hk
      have hnew := Option.some.inj hk
      rw [← hnew]
      split
      · intro hmark
        cases hmark
      · exact adjustRela_evenMark (hmarks old (List.mem_of_getElem? hold))

theorem resolveDeleteLoop_kept (info : SecInfo) (fuel : Nat) (deleteTotal : Vma) (i : Nat) (st : SecState)
    (hmarks : ∀ r ∈ st.relocs, EvenMark r) :
    KeptFrom 0 st.relocs (resolveDeleteLoop info fuel deleteTotal i st).relocs ∧
      ∀ r ∈ (resolveDeleteLoop info fuel deleteTotal i st).relocs, EvenMark r := by
  induction fuel generalizing deleteTotal i st with
  | zero => exact ⟨.refl 0 _, hmarks⟩
  | succ fuel ih =>
    rw [resolveDeleteLoop]
    split
    · exact ⟨.refl 0 _, hmarks⟩
    · rename_i rel hrel
      split
      · rename_i hdel
        split
        · exact resolveMark_kept hmarks hrel hdel
        · rename_i j _
          dsimp only
          generalize (st.relocs[j]?.map (·.offset)).getD st.size = toaddr
          obtain ⟨hkept, heven⟩ := @resolveMark_kept i rel info st deleteTotal toaddr hmarks hrel hdel
          obtain ⟨hkept', heven'⟩ := ih (deleteTotal + rel.addend) j _ heven
          exact ⟨hkept.trans hkept', heven'⟩
      · exact ih deleteTotal (i + 1) st hmarks

/-- Whatever has happened before pass 1, the alignments are still there. -/
theorem Relaxed.kept {info : SecInfo} {st st' : SecState} (h : Relaxed info st st')
    (hmarks : ∀ r ∈ st.relocs, EvenMark r) : KeptFrom 0 st.relocs st'.relocs ∧ ∀ r ∈ st'.relocs, EvenMark r := by
  induction h with
  | start => exact ⟨.refl 0 _, hmarks⟩
  | delete _ c heven ih =>
    rename_i st' _
    have hrelocs : (deleteCall info st' c).relocs = st'.relocs.map (adjustRela c.addr c.count st'.size) :=
      deleteBytes_relocs ..
    rw [hrelocs]
    refine ⟨ih.1.trans (keptFrom_map (fun r => adjustRela_kept heven r) 0 _), ?_⟩
    intro r hr
    obtain ⟨old, hold, rfl⟩ := List.mem_map.mp hr
    exact adjustRela_evenMark (ih.2 old hold)
  | pass _ link inp maxAlignment pass ih =>
    rename_i st' _
    obtain ⟨hloop, heven⟩ := @relaxRelocs_kept link inp maxAlignment { pass with contents := st'.contents } st'.relocs
      ih.2
    obtain ⟨hsweep, heven'⟩ := resolveDeleteLoop_kept info _ 0 0
      { st' with
        contents := (relaxRelocs link inp maxAlignment { pass with contents := st'.contents } st'.relocs).1.contents
        relocs := (relaxRelocs link inp maxAlignment { pass with contents := st'.contents } st'.relocs).2 } heven
    exact ⟨(ih.1.trans (keptFrom_of_forall₂ hloop)).trans hsweep, heven'⟩

end Kept

/-! ## The alignment pass -/

section Pass

variable {info : SecInfo} {secAddr : Vma} {st st' : SecState} {n i : Nat}

/-- An `R_RISCV_ALIGN` for 2^n, with padding for the worst case when instructions are aligned to `insn` bytes. -/
structure Padding (insn n : Nat) (r : Rela) : Prop where
  type : r.type = .align
  bound : n < 64
  addend : r.addend.toNat = 2 ^ n - insn
  parcel : insn = 2 ∨ insn = 4
  large : insn < 2 ^ n
  even : r.offset.toNat % 2 = 0

/-- What is expected when the alignment is reached: the linker finds the alignment, has the NOPs for it, and the
address after them is a multiple. -/
structure AlignOk (secAddr : Vma) (n : Nat) (r : Rela) : Prop where
  type : r.type = .align
  alignment : alignmentLoop r.addend 65 1 = some (1#64 <<< n)
  enough : nopBytes (1#64 <<< n) (r.offset + secAddr) ≤ r.addend
  aligned : (r.offset + secAddr + nopBytes (1#64 <<< n) (r.offset + secAddr)).toNat % 2 ^ n = 0

theorem Padding.two_le {insn : Nat} {r : Rela} (h : Padding insn n r) : 2 ≤ n := by
  by_contra hlt
  have hpow : 2 ^ n ≤ 2 ^ 1 := Nat.pow_le_pow_right (by decide) (by omega)
  have hlarge := h.large
  rcases h.parcel with hinsn | hinsn <;> omega

theorem Padding.alignment {insn : Nat} {r : Rela} (h : Padding insn n r) :
    alignmentLoop r.addend 65 1 = some (1#64 <<< n) := by
  have htwo := h.two_le
  have hbound := h.bound
  have hlarge := h.large
  have hinsn := h.parcel
  -- the power before 2^n is at most the padding
  have hhalf : 2 ^ (n - 1) * 2 = 2 ^ n := Nat.pow_pred_mul (by omega)
  have hfour : insn = 4 → 4 ≤ 2 ^ (n - 1) := by
    intro h4
    have hthree : 3 ≤ n := by
      by_contra hlt
      have hpow : 2 ^ n ≤ 2 ^ 2 := Nat.pow_le_pow_right (by decide) (by omega)
      omega
    have hpow : 2 ^ 2 ≤ 2 ^ (n - 1) := Nat.pow_le_pow_right (by decide) (by omega)
    omega
  have hlow (m : Nat) (hm : m < n) : 2 ^ m ≤ r.addend.toNat := by
    have hpow : 2 ^ m ≤ 2 ^ (n - 1) := Nat.pow_le_pow_right (by decide) (by omega)
    have hpow2 : 2 ^ 1 ≤ 2 ^ (n - 1) := Nat.pow_le_pow_right (by decide) (by omega)
    rw [h.addend]
    rcases hinsn with h2 | h4
    · omega
    · have := hfour h4
      omega
  have hhigh : r.addend.toNat < 2 ^ n := by
    rw [h.addend]
    omega
  exact @alignmentLoop_eq n r.addend 65 0 hbound hlow hhigh (Nat.zero_le n) (by omega)

/-- Where the NOPs start, up to the alignment. -/
theorem toNat_offset_mod (hn : n < 64) (hsec : 2 ^ n ∣ secAddr.toNat) (offset : Vma) :
    (offset + secAddr).toNat % 2 ^ n = offset.toNat % 2 ^ n := by
  obtain ⟨k, hk⟩ := hsec
  rw [toNat_add_mod hn.le, hk, Nat.add_mul_mod_self_left]

/-- The padding is enough unless instructions are taken to be aligned to four bytes and the NOPs start two bytes
after a multiple of 2^n. -/
theorem Padding.alignOk_iff {insn : Nat} {r : Rela} (h : Padding insn n r) (hsec : 2 ^ n ∣ secAddr.toNat) :
    AlignOk secAddr n r ↔ (insn = 4 → r.offset.toNat % 2 ^ n ≠ 2) := by
  obtain ⟨hlt, hsum⟩ := nopBytes_spec h.bound (r.offset + secAddr)
  have hmod := toNat_offset_mod h.bound hsec r.offset
  set start := (r.offset + secAddr).toNat with hstart
  set nops := (nopBytes (1#64 <<< n) (r.offset + secAddr)).toNat with hnops
  have haligned : (r.offset + secAddr + nopBytes (1#64 <<< n) (r.offset + secAddr)).toNat % 2 ^ n = 0 := by
    rw [toNat_add_mod h.bound.le]
    exact hsum
  have hfits : AlignOk secAddr n r ↔ nops ≤ 2 ^ n - insn := by
    rw [← h.addend]
    exact ⟨fun hok => hok.enough, fun hle => ⟨h.type, h.alignment, hle, haligned⟩⟩
  have heven : r.offset.toNat % 2 ^ n % 2 = 0 := by
    rw [Nat.mod_mod_of_dvd _ (dvd_pow_self 2 (by have := h.two_le; omega))]
    exact h.even
  have hlarge := h.large
  have hinsn := h.parcel
  -- the start modulo 2^n and the number of NOPs add up to nothing or to 2^n
  have hwrap : start % 2 ^ n + nops = 0 ∨ start % 2 ^ n + nops = 2 ^ n := by
    have hstartLt := Nat.mod_lt start (Nat.two_pow_pos n)
    rw [Nat.add_mod, Nat.mod_eq_of_lt hlt] at hsum
    obtain ⟨k, hk⟩ := Nat.dvd_of_mod_eq_zero hsum
    have hk2 : k < 2 := by
      by_contra hge
      have hle : 2 ^ n * 2 ≤ 2 ^ n * k := Nat.mul_le_mul_left _ (by omega)
      omega
    rcases Nat.lt_succ_iff_lt_or_eq.mp hk2 with hk0 | rfl
    · left
      rw [hk, Nat.lt_one_iff.mp hk0, Nat.mul_zero]
    · right
      rw [hk, Nat.mul_one]
  rw [hfits, ← hmod]
  rw [← hmod] at heven
  rcases hinsn with h2 | h4
  · refine iff_of_true ?_ (by omega)
    omega
  · constructor
    · omega
    · intro hne
      have := hne h4
      omega

theorem Padding.of_kept {insn : Nat} {r r' : Rela} (h : Padding insn n r) (hkept : Kept r r') : Padding insn n r' where
  type := hkept.align_iff.mpr h.type
  bound := h.bound
  addend := by rw [hkept.addend h.type, h.addend]
  parcel := h.parcel
  large := h.large
  even := by rw [hkept.parity h.type, h.even]

/-- Both the padding and the NOPs that stay are of even length. -/
theorem Padding.even_nops {insn : Nat} {r : Rela} (h : Padding insn n r) (hsec : 2 ^ n ∣ secAddr.toNat) :
    r.addend.toNat % 2 = 0 ∧ (nopBytes (1#64 <<< n) (r.offset + secAddr)).toNat % 2 = 0 := by
  have htwo : 2 ∣ 2 ^ n := dvd_pow_self 2 (by have := h.two_le; omega)
  obtain ⟨k, hk⟩ := htwo
  obtain ⟨-, hsum⟩ := nopBytes_spec h.bound (r.offset + secAddr)
  have hstart : (r.offset + secAddr).toNat % 2 = 0 := by
    rw [← Nat.mod_mod_of_dvd _ ⟨k, hk⟩, toNat_offset_mod h.bound hsec, Nat.mod_mod_of_dvd _ ⟨k, hk⟩]
    exact h.even
  have hboth := Nat.mod_mod_of_dvd ((r.offset + secAddr).toNat + (nopBytes (1#64 <<< n) (r.offset + secAddr)).toNat)
    ⟨k, hk⟩
  rw [hsum] at hboth
  have hlarge := h.large
  rw [h.addend]
  refine ⟨?_, by omega⟩
  rcases h.parcel with hinsn | hinsn <;> omega

theorem padding_start (r : Rela) (secAddr : Vma) :
    r.offset + r.addend + secAddr - r.addend = r.offset + secAddr := by
  rw [BitVec.add_assoc, BitVec.add_comm r.addend, ← BitVec.add_assoc, BitVec.add_sub_cancel]

/-- With enough NOPs there is no error. -/
theorem AlignOk.relaxAlign {r : Rela} (h : AlignOk secAddr n r) (info : SecInfo) (st : SecState) (i : Nat) :
    ∃ st', bfdRiscvRelaxAlign info st i r (r.offset + r.addend + secAddr) = .ok st' := by
  unfold bfdRiscvRelaxAlign
  rw [h.alignment, padding_start]
  dsimp only
  rw [if_neg (BitVec.not_lt.mpr h.enough)]
  split
  · exact ⟨_, rfl⟩
  · exact ⟨_, rfl⟩

/-- The alignment handled is gone, and the others are kept. -/
theorem relaxAlign_kept {insn : Nat} {r : Rela} (h : Padding insn n r) (hsec : 2 ^ n ∣ secAddr.toNat)
    (hok : bfdRiscvRelaxAlign info st i r (r.offset + r.addend + secAddr) = .ok st') :
    KeptFrom (i + 1) st.relocs st'.relocs := by
  have hset : KeptFrom (i + 1) st.relocs (setInfo st i .none).relocs :=
    modify_kept i _ fun _ hle => absurd hle (by omega)
  unfold bfdRiscvRelaxAlign at hok
  rw [h.alignment, padding_start] at hok
  dsimp only at hok
  split at hok
  · cases hok
  · split at hok
    · cases hok
      exact hset
    · cases hok
      obtain ⟨haddend, hnops⟩ := h.even_nops hsec
      have hcount : (r.addend - nopBytes (1#64 <<< n) (r.offset + secAddr)).toNat % 2 = 0 := by
        rw [toNat_sub_even hnops]
        exact haddend
      rw [riscvRelaxDeleteImmediate, deleteBytes_relocs]
      exact hset.trans (keptFrom_map (fun r => adjustRela_kept hcount r) _ _)

/-- The alignments of a file before it is relaxed, in a section placed at `secAddr`. -/
def Padded (secAddr : Vma) (relocs : List Rela) : Prop :=
  ∀ r ∈ relocs, r.type = .align → ∃ insn n, Padding insn n r ∧ 2 ^ n ∣ secAddr.toNat

theorem alignRound_kept {relocs : List Rela} (hpad : Padded secAddr relocs) (hkept : KeptFrom i relocs st.relocs)
    (hok : alignRound info secAddr st i = .ok st') : KeptFrom (i + 1) relocs st'.relocs := by
  unfold alignRound at hok
  split at hok
  · cases hok
    exact hkept.mono (Nat.le_succ i)
  · rename_i rel hrel
    split at hok
    · rename_i htype
      have hlt : i < relocs.length := by
        rw [← hkept.length]
        exact (List.getElem?_eq_some_iff.mp hrel).1
      have hold := List.getElem?_eq_getElem hlt
      have hsame := hkept.kept i _ rel (Nat.le_refl i) hold hrel
      obtain ⟨insn, n, hn, hsec⟩ := hpad _ (List.mem_of_getElem? hold) (hsame.align_iff.mp htype)
      exact (hkept.mono (Nat.le_succ i)).trans (relaxAlign_kept (hn.of_kept hsame) hsec hok)
    · cases hok
      exact hkept.mono (Nat.le_succ i)

theorem alignRounds_succ (info : SecInfo) (secAddr : Vma) (st : SecState) (i : Nat) :
    alignRounds info secAddr st (i + 1) =
      (alignRounds info secAddr st i).bind fun mid => alignRound info secAddr mid i := by
  rw [alignRounds, List.range_succ, List.foldlM_append, alignRounds]
  cases List.foldlM (alignRound info secAddr) st (List.range i) with
  | error e => rfl
  | ok mid => exact bind_pure (alignRound info secAddr mid i)

/-- When round `i` is reached, the alignments from there on are as they were. -/
theorem alignRounds_kept {relocs : List Rela} (hpad : Padded secAddr relocs) (hkept : KeptFrom 0 relocs st.relocs)
    (hok : alignRounds info secAddr st i = .ok st') : KeptFrom i relocs st'.relocs := by
  induction i generalizing st' with
  | zero =>
    cases hok
    exact hkept
  | succ i ih =>
    rw [alignRounds_succ] at hok
    cases hmid : alignRounds info secAddr st i with
    | error e =>
      rw [hmid] at hok
      cases hok
    | ok mid =>
      rw [hmid] at hok
      exact alignRound_kept hpad (ih hmid) hok

/-- The rounds succeed when every alignment reached has enough NOPs. -/
theorem alignRounds_ok {relocs : List Rela} (hpad : Padded secAddr relocs) (hkept : KeptFrom 0 relocs st.relocs)
    (hok : ∀ i r₀ r st', relocs[i]? = some r₀ → r₀.type = .align → alignRounds info secAddr st i = .ok st' →
      st'.relocs[i]? = some r → ∃ n, AlignOk secAddr n r) (i : Nat) :
    ∃ st', alignRounds info secAddr st i = .ok st' := by
  induction i with
  | zero => exact ⟨st, rfl⟩
  | succ i ih =>
    obtain ⟨mid, hmid⟩ := ih
    have hmidKept := alignRounds_kept hpad hkept hmid
    rw [alignRounds_succ, hmid]
    change ∃ st', alignRound info secAddr mid i = .ok st'
    unfold alignRound
    split
    · exact ⟨_, rfl⟩
    · rename_i r hr
      split
      · rename_i htype
        have hlt : i < relocs.length := by
          rw [← hmidKept.length]
          exact (List.getElem?_eq_some_iff.mp hr).1
        have hold := List.getElem?_eq_getElem hlt
        have hsame := hmidKept.kept i _ r (Nat.le_refl i) hold hr
        obtain ⟨n, hn⟩ := hok i _ r mid hold (hsame.align_iff.mp htype) hmid hr
        exact hn.relaxAlign info mid i
      · exact ⟨_, rfl⟩

end Pass

end RiscvBinutils.Bfd
