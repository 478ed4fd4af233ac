/-
Alignment across assembler and linker: the worst-case padding of `riscv_frag_align_code`, and what
`_bfd_riscv_relax_align` makes of it.
-/
import RiscvBinutils.Bfd.Align
import RiscvBinutils.Gas.Assemble

namespace RiscvBinutils.Gas

open RiscvBinutils.Bfd RiscvBinutils.Isa

/-! ## Programs assembled with relaxation on -/

/-- Instructions, labels, alignments, and options other than `norelax`. -/
def Stmt.relaxedCode : Stmt → Bool
  | .uleb128 .. => false
  | .option line => line.name ≠ "norelax".toList
  | _ => true

/-- The state that a text section starts in: nothing has been pushed. -/
def textStart (opts : SetOptions) (parse : ParseState) (alignment : Nat) : TextState where
  options := { opts, parse }
  alignment

/-- The relocation that `riscv_frag_align_code` leaves at an address. -/
def paddingRela (address n : Nat) (rvc : Bool) : Rela where
  offset := BitVec.ofNat 64 address
  sym := 0
  type := .align
  addend := BitVec.ofNat 64 (worstCaseBytes n rvc)

/-- The relocation `r` has been emitted by `riscv_frag_align_code (n)` with the given `riscv_opts.rvc`. -/
def Emitted (as : AsOpts) (start : TextState) (prog : List Stmt) (n : Nat) (rvc : Bool) (r : Rela) : Prop :=
  ∃ pre m max post, prog = pre ++ .align m false max :: post ∧ n = Nat.min m (alignLimit as.xlen) ∧
    (assemble as start pre).options.opts.rvc = rvc ∧ insnAlignment rvc < 2 ^ n ∧
    r = paddingRela (assemble as start pre).size n rvc

/-! ## Invariants of the run -/

/-- Relaxation is on, and stays on when options are popped. -/
structure RelaxOn (o : OptionState) : Prop where
  opts : o.opts.relax = true
  stack : ∀ e ∈ o.stack, e.1.relax = true

structure EvenText (st : TextState) : Prop where
  options : RelaxOn st.options
  size : st.size % 2 = 0

section Run

variable {as : AsOpts} {st : TextState}

theorem sRiscvOption_relaxOn {rps : Rps} {o : OptionState} {line : OptionLine} (h : RelaxOn o)
    (hline : line.name ≠ "norelax".toList) : RelaxOn (sRiscvOption rps o line) := by
  have hstep := directive_sRiscvOption rps o line
  generalize sRiscvOption rps o line = after at hstep ⊢
  cases hstep with
  | set opts _ _ hrelax => exact ⟨hrelax hline h.opts, h.stack⟩
  | @arch str =>
    unfold optionArch
    dsimp only
    split <;> split <;> exact ⟨h.opts, h.stack⟩
  | push =>
    refine ⟨h.opts, ?_⟩
    intro e he
    rcases List.mem_cons.mp he with rfl | he
    · exact h.opts
    · exact h.stack e he
  | pop =>
    unfold optionPop
    split
    · exact ⟨h.opts, h.stack⟩
    · rename_i opts list stack hstack
      have hmem : (opts, list) ∈ o.stack := by
        rw [hstack]
        exact List.mem_cons_self ..
      refine ⟨h.stack _ hmem, ?_⟩
      intro e he
      refine h.stack e ?_
      rw [hstack]
      exact List.mem_cons_of_mem _ he
  | _ => exact ⟨h.opts, h.stack⟩

theorem worstCaseBytes_even {n : Nat} {rvc : Bool} (h : insnAlignment rvc < 2 ^ n) : worstCaseBytes n rvc % 2 = 0 := by
  have hn : n ≠ 0 := by
    rintro rfl
    cases rvc <;> exact absurd h (by decide)
  obtain ⟨k, hk⟩ : 2 ∣ 2 ^ n := dvd_pow_self 2 hn
  rw [worstCaseBytes]
  cases rvc
  · change (2 ^ n - 4) % 2 = 0
    omega
  · change (2 ^ n - 2) % 2 = 0
    omega

theorem alignPad_zero (address max : Nat) : alignPad address 0 max = 0 := by
  unfold alignPad
  dsimp only
  split
  · rfl
  · exact Nat.mod_one _

theorem alignPad_even {address : Nat} (h : address % 2 = 0) (n max : Nat) : alignPad address n max % 2 = 0 := by
  rcases Nat.eq_zero_or_pos n with rfl | hn
  · rw [alignPad_zero]
  · obtain ⟨k, hk⟩ : 2 ∣ 2 ^ n := dvd_pow_self 2 (by omega)
    unfold alignPad
    dsimp only
    split
    · rfl
    · rw [Nat.mod_mod_of_dvd _ ⟨k, hk⟩]
      have hlt := Nat.mod_lt address (Nat.two_pow_pos n)
      have heven := Nat.mod_mod_of_dvd address ⟨k, hk⟩
      omega

/-- With relaxation on, what an alignment without a fill value does. -/
theorem doAlign_relax (hrelax : st.options.opts.relax = true) (n max : Nat) :
    doAlign n false max st =
      if insnAlignment st.options.opts.rvc < 2 ^ n then
        { st with
          fixes := st.fixes ++ [alignFix st.size n st.options.opts.rvc]
          size := st.size + worstCaseBytes n st.options.opts.rvc
          alignment := Nat.max st.alignment n }
      else { st with alignment := Nat.max st.alignment n } := by
  unfold doAlign riscvFragAlignCode
  dsimp only
  by_cases hlarge : insnAlignment st.options.opts.rvc < 2 ^ n
  · have hn : n ≠ 0 := by
      rintro rfl
      revert hlarge
      cases st.options.opts.rvc <;> decide
    rw [if_pos ⟨hn, rfl⟩, if_neg (by omega), if_neg (by simp [hrelax]), if_pos hlarge]
  · rw [if_neg hlarge]
    by_cases hn : n ≠ 0
    · rw [if_pos ⟨hn, rfl⟩, if_pos (by omega)]
    · rw [if_neg (by simp [hn])]
      have hzero : n = 0 := by omega
      subst hzero
      rw [alignPad_zero]
      rfl

/-- With a fill value there is no relocation. -/
theorem doAlign_fill (n max : Nat) :
    doAlign n true max st =
      { st with size := st.size + alignPad st.size n max, alignment := Nat.max st.alignment n } := by
  unfold doAlign
  rw [if_neg (by simp)]

/-- A statement keeps the size of the section even. -/
theorem assembleStmt_even (h : EvenText st) {s : Stmt} (hs : s.relaxedCode = true) :
    EvenText (assembleStmt as st s) := by
  cases s with
  | insn i =>
    refine ⟨h.options, ?_⟩
    change (st.size + i.length) % 2 = 0
    have := h.size
    have := i.even
    omega
  | label name isLocal => exact ⟨h.options, h.size⟩
  | align m fill max =>
    rw [assembleStmt]
    cases fill
    · rw [doAlign_relax h.options.opts]
      split
      · rename_i hlarge
        refine ⟨h.options, ?_⟩
        change (st.size + worstCaseBytes _ _) % 2 = 0
        have := h.size
        have := worstCaseBytes_even hlarge
        omega
      · exact ⟨h.options, h.size⟩
    · rw [doAlign_fill]
      refine ⟨h.options, ?_⟩
      change (st.size + alignPad _ _ _) % 2 = 0
      have := h.size
      have := alignPad_even h.size (Nat.min m (alignLimit as.xlen)) max
      omega
  | uleb128 length l1 l0 => cases hs
  | option line => exact ⟨sRiscvOption_relaxOn h.options (of_decide_eq_true hs), h.size⟩

theorem assemble_even {prog : List Stmt} (h : EvenText st) (hprog : ∀ s ∈ prog, s.relaxedCode = true) :
    EvenText (assemble as st prog) := by
  induction prog generalizing st with
  | nil => exact h
  | cons s prog ih =>
    exact ih (assembleStmt_even h (hprog s (List.mem_cons_self ..))) fun t ht => hprog t (List.mem_cons_of_mem _ ht)

theorem doAlign_alignment (n : Nat) (fill : Bool) (max : Nat) :
    (doAlign n fill max st).alignment = Nat.max st.alignment n := by
  unfold doAlign
  dsimp only
  split
  · rename_i st' h
    split at h
    · unfold riscvFragAlignCode at h
      dsimp only at h
      split at h
      · cases h
        rfl
      · split at h
        · cases h
        · cases h
          rfl
    · cases h
  · rfl

/-- The alignment of the section only grows. -/
theorem assembleStmt_alignment (s : Stmt) : st.alignment ≤ (assembleStmt as st s).alignment := by
  cases s with
  | align m fill max =>
    rw [assembleStmt, doAlign_alignment]
    exact Nat.le_max_left ..
  | _ => exact Nat.le_refl _

theorem assemble_alignment (prog : List Stmt) : st.alignment ≤ (assemble as st prog).alignment := by
  induction prog generalizing st with
  | nil => exact Nat.le_refl _
  | cons s prog ih => exact (assembleStmt_alignment s).trans ih

/-- What a statement adds to the fixups. -/
theorem assembleStmt_fixes (hrelax : st.options.opts.relax = true) (s : Stmt) :
    ∃ new, (assembleStmt as st s).fixes = st.fixes ++ new ∧ ∀ f ∈ new, f.rType = .align →
      ∃ m max, s = .align m false max ∧
        insnAlignment st.options.opts.rvc < 2 ^ (Nat.min m (alignLimit as.xlen)) ∧
        f = alignFix st.size (Nat.min m (alignLimit as.xlen)) st.options.opts.rvc := by
  cases s with
  | insn i =>
    rw [assembleStmt, appendInsn]
    dsimp only
    split
    · exact ⟨[], by simp, by simp⟩
    · rename_i f _
      split
      · exact ⟨[], by simp, by simp⟩
      · refine ⟨_, rfl, ?_⟩
        intro g hg htype
        rw [List.mem_singleton.mp hg] at htype
        have hoperand := f.operand
        rw [show f.rType = .align from htype] at hoperand
        cases hoperand
  | label name isLocal => exact ⟨[], by simp [assembleStmt], by simp⟩
  | align m fill max =>
    rw [assembleStmt]
    cases fill
    · rw [doAlign_relax hrelax]
      split
      · rename_i hlarge
        refine ⟨_, rfl, ?_⟩
        intro f hf _
        exact ⟨m, max, rfl, hlarge, List.mem_singleton.mp hf⟩
      · exact ⟨[], by simp, by simp⟩
    · rw [doAlign_fill]
      exact ⟨[], by simp, by simp⟩
  | uleb128 length l1 l0 => exact ⟨[], by simp [assembleStmt], by simp⟩
  | option line => exact ⟨[], by simp [assembleStmt], by simp⟩

/-- The alignment fixups of a run. -/
theorem assemble_alignFix {prog : List Stmt} (h : EvenText st) (hprog : ∀ s ∈ prog, s.relaxedCode = true) {f : TextFix}
    (hf : f ∈ (assemble as st prog).fixes) (htype : f.rType = .align) :
    f ∈ st.fixes ∨ ∃ pre m max post, prog = pre ++ .align m false max :: post ∧
      insnAlignment (assemble as st pre).options.opts.rvc < 2 ^ (Nat.min m (alignLimit as.xlen)) ∧
      f = alignFix (assemble as st pre).size (Nat.min m (alignLimit as.xlen))
        (assemble as st pre).options.opts.rvc := by
  induction prog generalizing st with
  | nil => exact .inl hf
  | cons s prog ih =>
    have hstep := @assembleStmt_even as st h s (hprog s (List.mem_cons_self ..))
    rcases ih hstep (fun t ht => hprog t (List.mem_cons_of_mem _ ht)) hf with hf | ⟨pre, m, max, post, rfl, hlarge, hf⟩
    · obtain ⟨new, hnew, halign⟩ := @assembleStmt_fixes as st h.options.opts s
      rw [hnew] at hf
      rcases List.mem_append.mp hf with hold | hf
      · exact .inl hold
      · obtain ⟨m, max, rfl, hlarge, hf⟩ := halign f hf htype
        exact .inr ⟨[], m, max, prog, rfl, hlarge, hf⟩
    · exact .inr ⟨s :: pre, m, max, post, rfl, hlarge, hf⟩

theorem assemble_append (st : TextState) (prog prog' : List Stmt) :
    assemble as st (prog ++ prog') = assemble as (assemble as st prog) prog' := List.foldl_append

end Run

/-! ## The relocations of the object file -/

section Relocs

variable {st : TextState} {symIndex : Symbol → Nat} {contents : List Byte}

theorem RelocCode.type_ne_delete (code : RelocCode) : code.type ≠ some .delete := by
  cases code <;> decide

theorem RelocCode.eq_align {code : RelocCode} (h : code.type = some .align) : code = .align := by
  cases code <;> first | rfl | exact absurd h (by decide)

theorem tcGenReloc_eq_some {fix : Fix} {r : Rela} (h : tcGenReloc symIndex fix = some r) :
    fix.rType.type = some r.type ∧ r.offset = fix.address ∧ r.sym = (fix.addsy.map symIndex).getD 0 ∧
      r.addend = fix.addnumber := by
  unfold tcGenReloc at h
  split at h
  · cases h
  · obtain ⟨type, htype, rfl⟩ := Option.map_eq_some_iff.mp h
    exact ⟨htype, rfl, rfl, rfl⟩

theorem relocs_cases {r : Rela} (hr : r ∈ st.relocs symIndex contents) :
    ∃ res ∈ (st.fixed contents).2, tcGenReloc symIndex res.1 = some r ∨
      ∃ n, res.2 = some n ∧ tcGenReloc symIndex n = some r := by
  obtain ⟨res, hres, hr⟩ := List.mem_flatMap.mp hr
  refine ⟨res, hres, ?_⟩
  rcases List.mem_append.mp hr with hr | hr
  · exact .inl (Option.mem_toList.mp hr)
  · obtain ⟨n, hn, hr⟩ := Option.bind_eq_some_iff.mp (Option.mem_toList.mp hr)
    exact .inr ⟨n, hn, hr⟩

theorem relocs_evenMark {r : Rela} (hr : r ∈ st.relocs symIndex contents) : EvenMark r := by
  obtain ⟨res, -, hr⟩ := relocs_cases hr
  intro hdel
  rcases hr with hr | ⟨n, -, hr⟩
  · have htype := (tcGenReloc_eq_some hr).1
    rw [hdel] at htype
    exact absurd htype (RelocCode.type_ne_delete _)
  · have htype := (tcGenReloc_eq_some hr).1
    rw [hdel] at htype
    exact absurd htype (RelocCode.type_ne_delete _)

/-- An `R_RISCV_ALIGN` of the object file comes from an alignment fixup. -/
theorem relocs_align {r : Rela} (hr : r ∈ st.relocs symIndex contents) (htype : r.type = .align) :
    ∃ f ∈ st.fixes, f.rType = .align ∧ r.offset = BitVec.ofNat 64 f.address ∧ r.addend = f.offset ∧
      r.sym = ((f.symbol.map st.symbol).map symIndex).getD 0 := by
  obtain ⟨res, hres, hr⟩ := relocs_cases hr
  obtain ⟨c, hc, hround⟩ := TextState.mem_fixed hres
  rcases hr with hr | ⟨n, hn, hr⟩
  · obtain ⟨hcode, hoffset, hsym, haddend⟩ := tcGenReloc_eq_some hr
    rw [htype] at hcode
    have halign := RelocCode.eq_align hcode
    obtain ⟨done, hfix⟩ := hround.fix
    rw [hfix] at halign hoffset hsym haddend
    rcases st.call_cases hc with ⟨f, hf, rfl⟩ | ⟨-, -, huleb | huleb⟩
    · exact ⟨f, hf, halign, hoffset, haddend, hsym⟩
    · exact absurd (huleb.symm.trans halign) (by decide)
    · exact absurd (huleb.symm.trans halign) (by decide)
  · have hcode := (tcGenReloc_eq_some hr).1
    rw [htype, (hround.next n hn).1] at hcode
    cases hcode

end Relocs

/-! ## The padding -/

section Main

variable {as : AsOpts} {opts : SetOptions} {parse : ParseState} {alignment : Nat} {prog : List Stmt}
variable {symIndex : Symbol → Nat} {contents : List Byte}

theorem textStart_even (hrelax : opts.relax = true) : EvenText (textStart opts parse alignment) :=
  ⟨⟨hrelax, by simp [textStart]⟩, rfl⟩

/-- What `riscv_frag_align_code` emits is padding for the worst case. -/
theorem Emitted.padding (hrelax : opts.relax = true) (hprog : ∀ s ∈ prog, s.relaxedCode = true) {n : Nat} {rvc : Bool}
    {r : Rela} (h : Emitted as (textStart opts parse alignment) prog n rvc r) : Padding (insnAlignment rvc) n r := by
  obtain ⟨pre, m, max, post, rfl, rfl, hrvc, hlarge, rfl⟩ := h
  have hbound : Nat.min m (alignLimit as.xlen) < 64 := by
    refine lt_of_le_of_lt (Nat.min_le_right m (alignLimit as.xlen)) ?_
    cases as.xlen <;> decide
  have hpow : 2 ^ Nat.min m (alignLimit as.xlen) < 2 ^ 64 := Nat.pow_lt_pow_right (by decide) hbound
  have heven := (@assemble_even as _ pre (@textStart_even opts parse alignment hrelax)
    fun s hs => hprog s (List.mem_append_left _ hs)).size
  refine ⟨rfl, hbound, ?_, ?_, hlarge, ?_⟩
  · change (worstCaseBytes _ rvc) % 2 ^ 64 = _
    exact Nat.mod_eq_of_lt (lt_of_le_of_lt (Nat.sub_le ..) hpow)
  · cases rvc
    · exact .inr rfl
    · exact .inl rfl
  · change (assemble as _ pre).size % 2 ^ 64 % 2 = 0
    omega

/-- The section is aligned at least as much. -/
theorem Emitted.le_alignment {start : TextState} {n : Nat} {rvc : Bool} {r : Rela} (h : Emitted as start prog n rvc r) :
    n ≤ (assemble as start prog).alignment := by
  obtain ⟨pre, m, max, post, rfl, rfl, -⟩ := h
  rw [assemble_append]
  refine le_trans ?_ (assemble_alignment post)
  rw [assembleStmt, doAlign_alignment]
  exact Nat.le_max_right ..

/-- Every `R_RISCV_ALIGN` of the object file has been emitted so. -/
theorem emitted_of_relocs (hrelax : opts.relax = true) (hprog : ∀ s ∈ prog, s.relaxedCode = true) {r : Rela}
    (hr : r ∈ (assemble as (textStart opts parse alignment) prog).relocs symIndex contents) (htype : r.type = .align) :
    ∃ n rvc, Emitted as (textStart opts parse alignment) prog n rvc r := by
  obtain ⟨f, hf, hcode, hoffset, haddend, hsym⟩ := relocs_align hr htype
  rcases assemble_alignFix (textStart_even hrelax) hprog hf hcode with hf | ⟨pre, m, max, post, hsplit, hlarge, rfl⟩
  · cases hf
  · refine ⟨_, _, pre, m, max, post, hsplit, rfl, rfl, hlarge, ?_⟩
    obtain ⟨offset, sym, type, addend⟩ := r
    cases htype
    cases hoffset
    cases haddend
    cases hsym
    rfl

/-- The linker reaches relocation `i` of the section: `r₀` in the object file, `r` by then. -/
def ReachedAs (info : SecInfo) (secAddr : Vma) (st₀ st : SecState) (i : Nat) (r₀ r : Rela) : Prop :=
  st₀.relocs[i]? = some r₀ ∧ ∃ st', alignRounds info secAddr st i = .ok st' ∧ st'.relocs[i]? = some r

/-- The padding of a program suffices in a link that has brought the section from `st₀` to `st` before pass 1. -/
structure PaddingSuffices (as : AsOpts) (start : TextState) (prog : List Stmt) (info : SecInfo) (secAddr : Vma)
    (st₀ st : SecState) : Prop where
  aligns : ∀ i n rvc r₀ r, Emitted as start prog n rvc r₀ → ReachedAs info secAddr st₀ st i r₀ r → AlignOk secAddr n r
  succeeds : ∃ st', alignRounds info secAddr st st.relocs.length = .ok st'

/-- The padding suffices exactly when no alignment emitted with `rvc` off is reached two bytes after a multiple of
its alignment. -/
theorem paddingSuffices_iff (hrelax : opts.relax = true) (hprog : ∀ s ∈ prog, s.relaxedCode = true) {info : SecInfo}
    {secAddr : Vma} {st₀ st : SecState}
    (hobject : st₀.relocs = (assemble as (textStart opts parse alignment) prog).relocs symIndex contents)
    (hrun : Relaxed info st₀ st)
    (hplaced : 2 ^ (assemble as (textStart opts parse alignment) prog).alignment ∣ secAddr.toNat) :
    PaddingSuffices as (textStart opts parse alignment) prog info secAddr st₀ st ↔
      ∀ i n r₀ r, Emitted as (textStart opts parse alignment) prog n false r₀ →
        ReachedAs info secAddr st₀ st i r₀ r → r.offset.toNat % 2 ^ n ≠ 2 := by
  have hmarks (r : Rela) (hr : r ∈ st₀.relocs) : EvenMark r := by
    rw [hobject] at hr
    exact relocs_evenMark hr
  have hsec {n : Nat} {rvc : Bool} {r : Rela} (h : Emitted as (textStart opts parse alignment) prog n rvc r) :
      2 ^ n ∣ secAddr.toNat := (Nat.pow_dvd_pow 2 h.le_alignment).trans hplaced
  have hemitted (r : Rela) (hr : r ∈ st₀.relocs) (htype : r.type = .align) :
      ∃ n rvc, Emitted as (textStart opts parse alignment) prog n rvc r := by
    rw [hobject] at hr
    exact emitted_of_relocs hrelax hprog hr htype
  have hpad : Padded secAddr st₀.relocs := by
    intro r hr htype
    obtain ⟨n, rvc, h⟩ := hemitted r hr htype
    exact ⟨insnAlignment rvc, n, h.padding hrelax hprog, hsec h⟩
  have hkept := (hrun.kept hmarks).1
  -- what is reached is still the padding that was emitted
  have hreached {i n : Nat} {rvc : Bool} {r₀ r : Rela} (h : Emitted as (textStart opts parse alignment) prog n rvc r₀)
      (hr : ReachedAs info secAddr st₀ st i r₀ r) :
      AlignOk secAddr n r ↔ (insnAlignment rvc = 4 → r.offset.toNat % 2 ^ n ≠ 2) := by
    obtain ⟨hr₀, st', hst', hr⟩ := hr
    have hsame := (alignRounds_kept hpad hkept hst').kept i r₀ r (Nat.le_refl i) hr₀ hr
    exact ((h.padding hrelax hprog).of_kept hsame).alignOk_iff (hsec h)
  constructor
  · intro h i n r₀ r hem hr
    exact (hreached hem hr).mp (h.aligns i n false r₀ r hem hr) rfl
  · intro h
    have haligns (i n : Nat) (rvc : Bool) (r₀ r : Rela)
      (hem : Emitted as (textStart opts parse alignment) prog n rvc r₀)
        (hr : ReachedAs info secAddr st₀ st i r₀ r) : AlignOk secAddr n r := by
      refine (hreached hem hr).mpr ?_
      intro hinsn
      cases rvc
      · exact h i n r₀ r hem hr
      · cases hinsn
    refine ⟨haligns, alignRounds_ok hpad hkept ?_ _⟩
    intro i r₀ r st' hr₀ htype hst' hr
    obtain ⟨n, rvc, hem⟩ := hemitted r₀ (List.mem_of_getElem? hr₀) htype
    exact ⟨n, haligns i n rvc r₀ r hem ⟨hr₀, st', hst', hr⟩⟩

/-- `c.nop`. -/
def cNop : Insn where
  length := 2
  even := rfl
  pos := by decide

def asRv64 : AsOpts := ⟨⟨some .c20191213, true⟩, .rv64⟩

/-- The object file of a program, with no symbols. -/
def objectOf (as : AsOpts) (start : TextState) (prog : List Stmt) : SecState where
  size := BitVec.ofNat 64 (assemble as start prog).size
  contents := List.replicate (assemble as start prog).size 0
  relocs := (assemble as start prog).relocs (fun _ => 0) []
  locals := []
  hashes := []

def textInfo : SecInfo := { sec := 0, shndx := 1, symHashes := [] }

theorem paddingSuffices_rvc :
    PaddingSuffices asRv64 (textStart { rvc := true } {} 1) [.insn cNop, .align 3 false 0] textInfo 0
      (objectOf asRv64 (textStart { rvc := true } {} 1) [.insn cNop, .align 3 false 0])
      (objectOf asRv64 (textStart { rvc := true } {} 1) [.insn cNop, .align 3 false 0]) := by
  refine (paddingSuffices_iff rfl (by decide) rfl .start (dvd_zero _)).mpr ?_
  -- the only alignment is emitted with `rvc` on
  rintro i n r₀ r ⟨pre, m, max, post, hsplit, -, hrvc, -⟩ -
  match pre with
  | [] => cases hsplit
  | [_] =>
    cases hsplit
    cases hrvc
  | _ :: _ :: pre =>
    have hlen := congrArg List.length hsplit
    simp only [List.length_append, List.length_cons, List.length_nil] at hlen
    omega

/-- After a `c.nop`, with `rvc` off: six bytes are needed for the alignment to eight, and four are there. -/
theorem padding_after_cNop :
    ¬ ∀ (as : AsOpts) (opts : SetOptions) (parse : ParseState) (alignment : Nat) (prog : List Stmt)
      (symIndex : Symbol → Nat) (contents : List Byte) (info : SecInfo) (secAddr : Vma) (st₀ st : SecState),
      opts.relax = true → (∀ s ∈ prog, s.relaxedCode = true) →
      st₀.relocs = (assemble as (textStart opts parse alignment) prog).relocs symIndex contents →
      Relaxed info st₀ st → 2 ^ (assemble as (textStart opts parse alignment) prog).alignment ∣ secAddr.toNat →
      PaddingSuffices as (textStart opts parse alignment) prog info secAddr st₀ st := by
  intro h
  let pre : List Stmt := [.option ⟨"rvc".toList, none⟩, .insn cNop, .option ⟨"norvc".toList, none⟩]
  have hall := h asRv64 {} rv64State.parse 2 (pre ++ [.align 3 false 0]) (fun _ => 0) [] textInfo 0
    (objectOf asRv64 (textStart {} rv64State.parse 2) (pre ++ [.align 3 false 0])) _ rfl (by decide) rfl .start
    (dvd_zero _)
  have hrvc : (assemble asRv64 (textStart {} rv64State.parse 2) pre).options.opts.rvc = false := by decide +kernel
  have hem : Emitted asRv64 (textStart {} rv64State.parse 2) (pre ++ [.align 3 false 0]) 3 false
    (paddingRela 2 3 false) :=
    ⟨pre, 3, 0, [], rfl, rfl, hrvc, by decide, by decide +kernel⟩
  have hrelocs : (objectOf asRv64 (textStart {} rv64State.parse 2) (pre ++ [.align 3 false 0])).relocs[0]? =
      some (paddingRela 2 3 false) := by decide +kernel
  have hok := hall.aligns 0 3 false _ _ hem ⟨hrelocs, _, rfl, hrelocs⟩
  exact absurd hok.enough (by decide)

end Main

end RiscvBinutils.Gas
