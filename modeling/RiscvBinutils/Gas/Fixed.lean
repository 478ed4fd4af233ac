/-
Distances that the assembler fixes, and what the linker may still move between their ends: the
`%pcrel_hi`/`%pcrel_lo` pairs that `md_apply_fix` resolves and the `.uleb128` differences that `riscv_md_finish`
leaves without relocations (gas/config/tc-riscv.c).
-/
import RiscvBinutils.Gas.Assemble

namespace RiscvBinutils.Gas

open RiscvBinutils.Bfd RiscvBinutils.Isa

/-! ## What is fixed, and what moves -/

/-- `a` lies between two points, in either order. -/
def Between (p q a : Nat) : Prop := min p q ≤ a ∧ a < max p q

/-- The linker may delete bytes here: there is an `R_RISCV_RELAX` in the object file, or the fixup is an alignment. -/
def Moved (r : Fix × Option Fix) : Prop :=
  (∃ n, r.2 = some n ∧ n.rType = .relax ∧ n.done = false) ∨ r.1.rType = .align

/-- The linker may delete bytes at address `a`. -/
def MovesAt (st : TextState) (contents : List Byte) (a : Nat) : Prop :=
  ∃ (j : Nat) (f : TextFix) (r : Fix × Option Fix), st.fixes[j]? = some f ∧ f.address = a ∧
    (st.fixed contents).2[j]? = some r ∧ Moved r

/-- The relocations for a `.uleb128` are there. -/
def HasPair (st : TextState) (u : Uleb128) : Prop :=
  (∃ c ∈ st.calls, c.fix.rType = .setUleb128 ∧ c.fix.address = BitVec.ofNat 64 u.address) ∧
    ∃ c ∈ st.calls, c.fix.rType = .subUleb128 ∧ c.fix.address = BitVec.ofNat 64 u.address

/-- The records of high parts that fixup `j` finds. -/
def TextState.recordsAt (st : TextState) (contents : List Byte) (j : Nat) : List PcrelHiFixup :=
  (fixupSegment { relax := st.options.opts.relax } textSeg (st.calls.take j) { contents }).1.hiFixups

/-- The distance between two addresses is fixed by the assembler: a high part is `fx_done`, which has the distance
from it to its symbol; or a low part is, with the record of a high part; or a `.uleb128` has no relocations. -/
inductive FixedDistance (st : TextState) (contents : List Byte) : Nat → Nat → Prop
  | high {j : Nat} {f : TextFix} {r : Fix × Option Fix} {name : String} {l : TextLabel} (hf : st.fixes[j]? = some f)
      (hcode : f.rType = .pcrelHi20) (hr : (st.fixed contents).2[j]? = some r) (hdone : r.1.done = true)
      (hname : f.symbol = some name) (hl : st.find name = some l) : FixedDistance st contents f.address l.address
  | low {j : Nat} {f g : TextFix} {r : Fix × Option Fix} {name label : String} {l : TextLabel} {e : PcrelHiFixup}
      (hf : st.fixes[j]? = some f) (hcode : f.rType.isPcrelLo = true) (hr : (st.fixed contents).2[j]? = some r)
      (hdone : r.1.done = true) (hlabel : f.symbol = some label)
      (hfind : riscvFindPcrelFixup (st.recordsAt contents j) ((st.symbol label).value + f.offset) = some e)
      (hg : g ∈ st.fixes) (hrec : (st.fixCall g).fix.records textSeg g.offset = some e)
      (hname : g.symbol = some name) (hl : st.find name = some l) : FixedDistance st contents g.address l.address
  | uleb {u : Uleb128} {l₁ l₀ : TextLabel} (hu : u ∈ st.ulebs) (hpair : ¬ HasPair st u)
      (hl₁ : st.find u.l1 = some l₁) (hl₀ : st.find u.l0 = some l₀) : FixedDistance st contents l₁.address l₀.address

/-- Nothing that the linker may move lies between two points whose distance is fixed. -/
def NothingBetween (st : TextState) (contents : List Byte) : Prop :=
  ∀ p q a, FixedDistance st contents p q → MovesAt st contents a → ¬ Between p q a

/-! ## The same, from the statements -/

/-- A `%pcrel_hi` of a local label of the section. -/
def TextFix.LocalHi (st : TextState) (f : TextFix) : Prop :=
  f.rType = .pcrelHi20 ∧ ∃ name l, f.symbol = some name ∧ st.find name = some l ∧ l.isLocal = true

/-- Fixup `j` is such a one, or a `%pcrel_lo` of the place of one before it. -/
def Resolvable (st : TextState) (j : Nat) (f : TextFix) : Prop :=
  f.LocalHi st ∨ (f.rType.isPcrelLo = true ∧ ∃ label i g, f.symbol = some label ∧ i < j ∧ st.fixes[i]? = some g ∧
    g.LocalHi st ∧ (st.symbol label).value + f.offset = BitVec.ofNat 64 g.address)

/-- An alignment, or an instruction with a relaxable operand, assembled with relaxation on and not resolvable. -/
def RelaxableAt (st : TextState) (a : Nat) : Prop :=
  ∃ (j : Nat) (f : TextFix), st.fixes[j]? = some f ∧ f.address = a ∧ (f.rType = .align ∨
    ((st.fixCall f).fix.relaxable = true ∧ f.tcbit = true ∧ f.symbol.isSome = true ∧ ¬ Resolvable st j f))

/-- Two points that a program measures: a `%pcrel_hi` and its label, or the labels of a `.uleb128`. -/
inductive Measured (st : TextState) : Nat → Nat → Prop
  | pcrel {f : TextFix} {name : String} {l : TextLabel} (hf : f ∈ st.fixes) (hcode : f.rType = .pcrelHi20)
      (hname : f.symbol = some name) (hl : st.find name = some l) (hlocal : l.isLocal = true) :
      Measured st f.address l.address
  | uleb {u : Uleb128} {l₁ l₀ : TextLabel} (hu : u ∈ st.ulebs) (hl₁ : st.find u.l1 = some l₁)
      (hl₀ : st.find u.l0 = some l₀) : Measured st l₁.address l₀.address

/-! ## Relaxation on at the end -/

section

variable {st : TextState} {contents : List Byte} {j : Nat} {f : TextFix} {r : Fix × Option Fix}

theorem TextState.calls_getElem? (hf : st.fixes[j]? = some f) : st.calls[j]? = some (st.fixCall f) := by
  have hlt : j < (st.fixes.map st.fixCall).length := by
    rw [List.length_map]
    exact (List.getElem?_eq_some_iff.mp hf).1
  rw [TextState.calls, List.getElem?_append_left hlt, List.getElem?_map, hf]
  rfl

/-- The result for a fixup, as the switch gives it. -/
theorem TextState.fixed_eq (hf : st.fixes[j]? = some f) (hr : (st.fixed contents).2[j]? = some r) :
    r = (fixupRound { relax := st.options.opts.relax } textSeg
      (fixupSegment { relax := st.options.opts.relax } textSeg (st.calls.take j) { contents }).1 (st.fixCall f)).2 ∧
      TextRound (st.fixCall f) r := by
  have hcall := st.calls_getElem? hf
  have hget := fixupSegment_getElem? { relax := st.options.opts.relax } textSeg hcall { contents }
  rw [TextState.fixed, hget] at hr
  cases hr
  obtain ⟨hnew, hcode⟩ := st.call_new (List.mem_of_getElem? hcall)
  exact ⟨rfl, fixupRound_text hnew hcode⟩

theorem not_done_of_relax {opts : FixOpts} {seg : Nat} {fst : FixState} {c : FixCall} (hrelax : opts.relax = true)
    (hnew : c.fix.done = false) (hcode : c.fix.rType = .pcrelHi20 ∨ c.fix.rType.isPcrelLo = true) :
    (fixupRound opts seg fst c).2.1.done = false := by
  have hhi : (applyPcrelHi20 opts seg fst { c.fix with addnumber := c.val } c.val).fix.done = false := by
    unfold applyPcrelHi20
    split
    · exact hnew
    · split
      · simp [hnew]
      · exact hnew
  have hlo : (applyPcrelLo12 opts seg fst { c.fix with addnumber := c.val } c.val).fix.done = false := by
    unfold applyPcrelLo12
    split
    · exact hnew
    · split
      · exact hnew
      · split
        · simp [hnew]
        · exact hnew
  rw [fixupRound_fix hnew]
  unfold applySwitch
  split
  all_goals first
    | exact hhi
    | exact hlo
    | (rename_i heq
       rw [show c.fix.rType = _ from heq] at hcode
       exact absurd hcode (by decide))

theorem hasPair_of_relax (hrelax : st.options.opts.relax = true) {u : Uleb128} (hu : u ∈ st.ulebs) : HasPair st u := by
  have hmem (c : FixCall) (hc : c ∈ st.insertUleb128Fixes) : c ∈ st.calls := by
    rw [TextState.calls, if_pos hrelax]
    exact List.mem_append_right _ hc
  refine ⟨⟨_, hmem _ (List.mem_flatMap.mpr ⟨u, hu, List.mem_cons_self ..⟩), rfl, rfl⟩, ?_⟩
  exact ⟨_, hmem _ (List.mem_flatMap.mpr ⟨u, hu, List.mem_cons_of_mem _ (List.mem_cons_self ..)⟩), rfl, rfl⟩

/-- With relaxation on at the end of the file no distance is fixed. -/
theorem not_fixedDistance_of_relax (hrelax : st.options.opts.relax = true) {p q : Nat} :
    ¬ FixedDistance st contents p q := by
  intro h
  cases h with
  | high hf hcode hr hdone _ _ =>
    obtain ⟨rfl, -⟩ := st.fixed_eq hf hr
    rw [not_done_of_relax hrelax rfl (.inl hcode)] at hdone
    cases hdone
  | low hf hcode hr hdone _ _ _ _ _ _ =>
    obtain ⟨rfl, -⟩ := st.fixed_eq hf hr
    rw [not_done_of_relax hrelax rfl (.inr hcode)] at hdone
    cases hdone
  | uleb hu hpair _ _ => exact hpair (hasPair_of_relax hrelax hu)

/-! ## Relaxation off at the end -/

theorem calls_of_norelax (hrelax : st.options.opts.relax = false) : st.calls = st.fixes.map st.fixCall := by
  rw [TextState.calls, if_neg (by simp [hrelax]), List.append_nil]

theorem not_hasPair_of_norelax (hrelax : st.options.opts.relax = false) (u : Uleb128) : ¬ HasPair st u := by
  rintro ⟨⟨c, hc, hcode, -⟩, -⟩
  rw [calls_of_norelax hrelax] at hc
  obtain ⟨f, -, rfl⟩ := List.mem_map.mp hc
  have htext := f.code
  rw [show f.rType = .setUleb128 from hcode] at htext
  exact absurd htext (by decide)

theorem TextState.symbol_local {name : String} :
    ((st.symbol name).isLocal = true ∧ (st.symbol name).seg = textSeg) ↔
      ∃ l, st.find name = some l ∧ l.isLocal = true := by
  unfold TextState.symbol
  cases hfind : st.find name with
  | none => simp
  | some l => simp

/-- A high part makes a record when it is one of a local label. -/
theorem records_iff_localHi (f : TextFix) :
    (∃ e, (st.fixCall f).fix.records textSeg f.offset = some e) ↔ f.LocalHi st := by
  constructor
  · rintro ⟨e, he⟩
    obtain ⟨hcode, -, hadd, -, hlocal, hseg⟩ := Fix.records_some he
    obtain ⟨name, hname, hsym⟩ := Option.map_eq_some_iff.mp (show f.symbol.map st.symbol = some e.symbol from hadd)
    rw [← hsym] at hlocal hseg
    obtain ⟨l, hl, hlocal⟩ := TextState.symbol_local.mp ⟨hlocal, hseg⟩
    exact ⟨hcode, name, l, hname, hl, hlocal⟩
  · rintro ⟨hcode, name, l, hname, hl, hlocal⟩
    have hsym := TextState.symbol_local.mpr ⟨l, hl, hlocal⟩
    have hadd : (st.fixCall f).fix.addsy = some (st.symbol name) := by
      change f.symbol.map st.symbol = some (st.symbol name)
      rw [hname]
      rfl
    have hcode' : (st.fixCall f).fix.rType = .pcrelHi20 := hcode
    simp only [Fix.records, hcode', hadd, if_pos hsym]
    exact ⟨_, rfl⟩

/-- A low part finds a record when it is one of the place of such a high part before it. -/
theorem found_iff (hrelax : st.options.opts.relax = false) (contents : List Byte) (j : Nat) (address : Vma) :
    (∃ e, Found textSeg (st.recordsAt contents j) address e) ↔
      ∃ (i : Nat) (g : TextFix), i < j ∧ st.fixes[i]? = some g ∧ g.LocalHi st ∧
        address = BitVec.ofNat 64 g.address := by
  have hrecords : st.recordsAt contents j =
      ((st.calls.take j).filterMap fun c => c.fix.records textSeg c.val).reverse := by
    have hnew (c : FixCall) (hc : c ∈ st.calls.take j) : c.fix.done = false :=
      (st.call_new (List.mem_of_mem_take hc)).1
    rw [TextState.recordsAt, fixupSegment_records hnew, List.append_nil]
  have hmem (e : PcrelHiFixup) : e ∈ st.recordsAt contents j ↔
      ∃ (i : Nat) (g : TextFix), i < j ∧ st.fixes[i]? = some g ∧
        (st.fixCall g).fix.records textSeg g.offset = some e := by
    rw [hrecords, List.mem_reverse, List.mem_filterMap, calls_of_norelax hrelax, ← List.map_take]
    constructor
    · rintro ⟨c, hc, hrec⟩
      obtain ⟨g, hg, rfl⟩ := List.mem_map.mp hc
      obtain ⟨i, hi, rfl⟩ := List.mem_take_iff_getElem.mp hg
      exact ⟨i, _, by omega, List.getElem?_eq_getElem (by omega), hrec⟩
    · rintro ⟨i, g, hij, hg, hrec⟩
      obtain ⟨hlen, rfl⟩ := List.getElem?_eq_some_iff.mp hg
      exact ⟨_, List.mem_map.mpr ⟨_, List.mem_take_iff_getElem.mpr ⟨i, by omega, rfl⟩, rfl⟩, hrec⟩
  constructor
  · rintro ⟨e, hfind, -, -⟩
    obtain ⟨i, g, hij, hg, hrec⟩ := (hmem e).mp (List.mem_of_find?_eq_some hfind)
    have haddr : e.address = address := by simpa using List.find?_some hfind
    refine ⟨i, g, hij, hg, (records_iff_localHi g).mp ⟨e, hrec⟩, ?_⟩
    rw [← haddr, (Fix.records_some hrec).2.1]
    rfl
  · rintro ⟨i, g, hij, hg, hlocal, haddr⟩
    obtain ⟨e, hrec⟩ := (records_iff_localHi g).mpr hlocal
    have hin := (hmem e).mpr ⟨i, g, hij, hg, hrec⟩
    have hat : e.address = address := (Fix.records_some hrec).2.1.trans haddr.symm
    obtain ⟨e', hfind⟩ : ∃ e', riscvFindPcrelFixup (st.recordsAt contents j) address = some e' :=
      Option.isSome_iff_exists.mp (List.find?_isSome.mpr ⟨e, hin, by simpa using hat⟩)
    obtain ⟨i', g', -, -, hrec'⟩ := (hmem e').mp (List.mem_of_find?_eq_some hfind)
    exact ⟨e', hfind, (Fix.records_some hrec').2.2.2.2⟩

/-- Other operands with a symbol are left to the linker. -/
theorem not_done_of_symbol {opts : FixOpts} {seg : Nat} {fst : FixState} {s : Symbol}
    (hsym : (st.fixCall f).fix.addsy = some s)
    (hhi : f.rType ≠ .pcrelHi20) (hlo : ¬ f.rType.isPcrelLo = true) :
    (fixupRound opts seg fst (st.fixCall f)).2.1.done = false := by
  have htent {k : Nat} {encode : Vma → Vma} {fix : Fix} {val : Vma} (h : fix.done = false) :
      (tentative fst fix val k encode).fix.done = false := by
    rw [tentative_fix.1]
    exact h
  rw [fixupRound_fix rfl]
  unfold applySwitch
  split
  all_goals first
    | rfl
    | exact htent rfl
    | (dsimp only
       rw [hsym]
       rfl)
    | (rename_i hcode; exact absurd hcode hhi)
    | (rename_i hcode
       rw [show f.rType = _ from hcode] at hlo
       exact absurd rfl hlo)

/-- A fixup with a symbol is `fx_done` when it is resolvable. -/
theorem done_iff_resolvable (hrelax : st.options.opts.relax = false) (hf : st.fixes[j]? = some f)
    (hr : (st.fixed contents).2[j]? = some r) (hsym : f.symbol.isSome = true) :
    r.1.done = true ↔ Resolvable st j f := by
  obtain ⟨rfl, -⟩ := st.fixed_eq hf hr
  obtain ⟨name, hname⟩ := Option.isSome_iff_exists.mp hsym
  have hadd : (st.fixCall f).fix.addsy = some (st.symbol name) := by
    change f.symbol.map st.symbol = some (st.symbol name)
    rw [hname]
    rfl
  by_cases hhi : f.rType = .pcrelHi20
  · rw [(round_high textSeg _ hrelax rfl hhi).1]
    refine (records_iff_localHi f).trans ⟨.inl, ?_⟩
    rintro (hlocal | ⟨hlo, -⟩)
    · exact hlocal
    · rw [hhi] at hlo
      cases hlo
  · by_cases hlo : f.rType.isPcrelLo = true
    · rw [(round_low hrelax rfl hlo).1]
      constructor
      · rintro ⟨l, e, hl, hfound⟩
        rw [hadd] at hl
        cases hl
        obtain ⟨i, g, hij, hg, hlocal, haddr⟩ := (found_iff hrelax contents j _).mp ⟨e, hfound⟩
        exact .inr ⟨hlo, name, i, g, hname, hij, hg, hlocal, haddr⟩
      · rintro (⟨hcode, -⟩ | ⟨-, label, i, g, hlabel, hij, hg, hlocal, haddr⟩)
        · exact absurd hcode hhi
        · rw [hname] at hlabel
          cases hlabel
          obtain ⟨e, hfound⟩ := (found_iff hrelax contents j _).mpr ⟨i, g, hij, hg, hlocal, haddr⟩
          exact ⟨_, e, hadd, hfound⟩
    · -- the other operands are left to the linker
      refine iff_of_false ?_ ?_
      · rw [not_done_of_symbol hadd hhi hlo]
        decide
      · rintro (⟨hcode, -⟩ | ⟨hcode, -⟩)
        · exact hhi hcode
        · exact hlo hcode

theorem movesAt_iff (hrelax : st.options.opts.relax = false) (contents : List Byte) (a : Nat) :
    MovesAt st contents a ↔ RelaxableAt st a := by
  have hone {j : Nat} {f : TextFix} {r : Fix × Option Fix} (hf : st.fixes[j]? = some f)
      (hr : (st.fixed contents).2[j]? = some r) : Moved r ↔ f.rType = .align ∨
        ((st.fixCall f).fix.relaxable = true ∧ f.tcbit = true ∧ f.symbol.isSome = true ∧ ¬ Resolvable st j f) := by
    have hround := (st.fixed_eq hf hr).2
    have hsome : (st.fixCall f).fix.addsy.isSome = f.symbol.isSome := Option.isSome_map
    obtain ⟨done, hfix⟩ := hround.fix
    have hcode : r.1.rType = f.rType := by
      rw [hfix]
      rfl
    rw [Moved, hcode, or_comm]
    refine or_congr Iff.rfl ?_
    constructor
    · rintro ⟨n, hn, -, hdone⟩
      obtain ⟨hrelaxable, htcbit, hsym⟩ := hround.relax.mp (by rw [hn]; rfl)
      rw [hsome] at hsym
      rw [(hround.next n hn).2] at hdone
      refine ⟨hrelaxable, htcbit, hsym, ?_⟩
      rw [← done_iff_resolvable hrelax hf hr hsym, hdone]
      decide
    · rintro ⟨hrelaxable, htcbit, hsym, hres⟩
      obtain ⟨n, hn⟩ := Option.isSome_iff_exists.mp (hround.relax.mpr ⟨hrelaxable, htcbit, by rw [hsome]; exact hsym⟩)
      rw [← done_iff_resolvable hrelax hf hr hsym] at hres
      refine ⟨n, hn, (hround.next n hn).1, ?_⟩
      rw [(hround.next n hn).2]
      exact Bool.eq_false_of_not_eq_true hres
  constructor
  · rintro ⟨j, f, r, hf, haddr, hr, hmoved⟩
    exact ⟨j, f, hf, haddr, (hone hf hr).mp hmoved⟩
  · rintro ⟨j, f, hf, haddr, hmoved⟩
    obtain ⟨r, hr, -⟩ := st.fixed_getElem? (st.calls_getElem? hf) contents
    exact ⟨j, f, r, hf, haddr, hr, (hone hf hr).mpr hmoved⟩

theorem fixedDistance_iff (hrelax : st.options.opts.relax = false) (contents : List Byte) (p q : Nat) :
    FixedDistance st contents p q ↔ Measured st p q := by
  constructor
  · intro h
    cases h with
    | high hf hcode hr hdone hname hl =>
      have hsym := Option.isSome_iff_exists.mpr ⟨_, hname⟩
      rcases (done_iff_resolvable hrelax hf hr hsym).mp hdone with ⟨-, name, l, hname', hl', hlocal⟩ | ⟨hlo, -⟩
      · rw [hname] at hname'
        cases hname'
        rw [hl] at hl'
        cases hl'
        exact .pcrel (List.mem_of_getElem? hf) hcode hname hl hlocal
      · rw [hcode] at hlo
        cases hlo
    | low _ _ _ _ _ _ hg hrec hname hl =>
      obtain ⟨hcode, name, l, hname', hl', hlocal⟩ := (records_iff_localHi _).mp ⟨_, hrec⟩
      rw [hname] at hname'
      cases hname'
      rw [hl] at hl'
      cases hl'
      exact .pcrel hg hcode hname hl hlocal
    | uleb hu _ hl₁ hl₀ => exact .uleb hu hl₁ hl₀
  · intro h
    cases h with
    | pcrel hf hcode hname hl hlocal =>
      obtain ⟨j, hf⟩ := List.mem_iff_getElem?.mp hf
      obtain ⟨r, hr, -⟩ := st.fixed_getElem? (st.calls_getElem? hf) contents
      have hsym := Option.isSome_iff_exists.mpr ⟨_, hname⟩
      exact .high hf hcode hr ((done_iff_resolvable hrelax hf hr hsym).mpr (.inl ⟨hcode, _, _, hname, hl, hlocal⟩))
        hname hl
    | uleb hu hl₁ hl₀ => exact .uleb hu (not_hasPair_of_norelax hrelax _) hl₁ hl₀

end

/-! ## When nothing lies between -/

/-- What the assembler has fixed cannot be invalidated by the linker exactly when relaxation is on at the end of the
file, or nothing relaxable lies between the points that the program measures. -/
theorem nothingBetween_iff (as : AsOpts) (start : TextState) (prog : List Stmt) (contents : List Byte) :
    NothingBetween (assemble as start prog) contents ↔
      (assemble as start prog).options.opts.relax = true ∨
        ∀ p q a, Measured (assemble as start prog) p q → RelaxableAt (assemble as start prog) a → ¬ Between p q a := by
  cases hrelax : (assemble as start prog).options.opts.relax with
  | true =>
    refine iff_of_true ?_ (.inl rfl)
    intro p q a hfixed
    exact absurd hfixed (not_fixedDistance_of_relax hrelax)
  | false =>
    simp only [NothingBetween, fixedDistance_iff hrelax, movesAt_iff hrelax, Bool.false_eq_true, false_or]

/-- `call f` between `1: auipc a0, %pcrel_hi (.Lx)` and `.Lx`, and `.option norelax` at the end. -/
def relaxedCall : List Stmt :=
  [.insn {
     length := 4, even := rfl, pos := by decide
     fix := some { rType := .pcrelHi20, operand := rfl, symbol := some ".Lx" } },
   .insn {
     length := 4, even := rfl, pos := by decide
     fix := some { rType := .call, operand := rfl, symbol := some "f" } },
   .insn { length := 4, even := rfl, pos := by decide },
   .label ".Lx" true,
   .option ⟨"norelax".toList, none⟩]

/-- The distance of 12 bytes is fixed although the linker may shorten the call. -/
theorem relaxedCall_between :
    ¬ ∀ (as : AsOpts) (start : TextState) (prog : List Stmt) (contents : List Byte),
      NothingBetween (assemble as start prog) contents := by
  intro h
  have hall := h ⟨⟨some .c20191213, true⟩, .rv64⟩ {} relaxedCall []
  generalize hst : assemble ⟨⟨some .c20191213, true⟩, .rv64⟩ {} relaxedCall = st at hall
  have hrelax : st.options.opts.relax = false := by
    rw [← hst]
    decide
  have hfixes : st.fixes = [{ address := 0, rType := .pcrelHi20, code := rfl, symbol := some ".Lx", tcbit := true },
      { address := 4, rType := .call, code := rfl, symbol := some "f", tcbit := true }] := by
    rw [← hst]
    rfl
  have hfind : st.find ".Lx" = some ⟨".Lx", 12, true⟩ := by
    rw [← hst]
    decide
  have hfixed : FixedDistance st [] 0 12 := by
    rw [fixedDistance_iff hrelax]
    exact .pcrel (f := { address := 0, rType := .pcrelHi20, code := rfl, symbol := some ".Lx", tcbit := true })
      (by simp [hfixes]) rfl rfl hfind rfl
  have hmoves : MovesAt st [] 4 := by
    rw [movesAt_iff hrelax]
    refine ⟨1, _, by rw [hfixes]; rfl, rfl, .inr ⟨rfl, rfl, rfl, ?_⟩⟩
    rintro (⟨hcode, -⟩ | ⟨hcode, -⟩) <;> cases hcode
  exact hall 0 12 4 hfixed hmoves ⟨by decide, by decide⟩

end RiscvBinutils.Gas
