/-
The rvc flag of the assembler (gas/config/tc-riscv.c, `riscv_set_arch` and `s_riscv_option`): it is set exactly when
the list of extensions has c or zca, as long as no `.option norvc` meets a list with zca.
-/
import RiscvBinutils.Gas.Option
import RiscvBinutils.Isa.Update

namespace RiscvBinutils.Gas

open Std RiscvBinutils.Base RiscvBinutils.Isa

/-! ## Setting the architecture -/

/-- What `riscv_set_arch` reports itself. -/
inductive ArchError
  /-- "the architecture string of -march and elf architecture attributes cannot be empty". -/
  | empty
  deriving DecidableEq, Repr

/-- The flags after the list has changed. -/
def OptionState.setFlags (st : OptionState) : OptionState :=
  let st := st.riscvSetRvc false
  let st := if st.parse.list.supports ['c'] || st.parse.list.supports "zca".toList then st.riscvSetRvc true else st
  if st.parse.list.supports "ztso".toList then { st with efTso := true } else st

/-- `riscv_set_arch`; `none` is a null pointer. -/
def riscvSetArch (rps : Rps) (s : Option (List Char)) (st : OptionState) : Except ArchError OptionState :=
  if s = some [] then .error .empty
  else
    let parse := (riscvParseSubset rps s { st.parse with list := riscvReleaseSubsetList st.parse.list }).2
    .ok { st with parse }.riscvResetArchStr.setFlags

/-- `.option arch` sets the flags as `riscv_set_arch` does. -/
theorem optionArch_eq (rps : Rps) (str : List Char) (st : OptionState) :
    optionArch rps str st = (st.update rps str).setFlags := rfl

/-! ## Runs -/

/-- What changes the list or the flag: `-march` and `.attribute arch`, and `.option`. -/
inductive ArchStep
  | setArch (s : Option (List Char))
  | option (line : OptionLine)
  deriving DecidableEq, Repr

def ArchStep.run (rps : Rps) (st : OptionState) : ArchStep → OptionState
  | .setArch s => (riscvSetArch rps s st).toOption.getD st
  | .option line => sRiscvOption rps st line

/-- zca and what implies it. -/
def zcaFamily : List Name := ["zca".toList, "zcb".toList, "zcf".toList, "zcd".toList]

/-- No norvc while zca is in the list, or will be, and no push of an empty list. -/
structure ArchStep.Ok (st : OptionState) (op : ArchStep) : Prop where
  norvc : ∀ line, op = .option line → line.name = "norvc".toList →
    ∀ n ∈ zcaFamily, st.parse.list.supports n = false
  push : ∀ line, op = .option line → line.name = "push".toList → st.parse.list.nodes ≠ []

/-- The states that lead on from the start of the assembler. -/
inductive ArchReached (rps : Rps) : OptionState → Prop
  | start (opts : SetOptions) (xlen : Nat) :
    ArchReached rps { opts := { opts with rvc := false }, parse := { xlen } }
  | step {st : OptionState} {op : ArchStep} (h : ArchReached rps st) (hok : op.Ok st) :
    ArchReached rps (op.run rps st)

/-- The flag says what the list has, and then the object file says so too. -/
structure RvcAgrees (st : OptionState) : Prop where
  list : st.opts.rvc = true ↔ st.parse.list.supports ['c'] = true ∨ st.parse.list.supports "zca".toList = true
  flag : st.opts.rvc = true → st.efRvc = true

/-! ## The names in the list -/

section Lettered

/-- A name that starts with a letter of the canonical order is that letter. -/
def LetterName (n : Name) : Prop := 0 < headOrder n → n.length = 1

/-- A list with such names. -/
structure Lettered (l : SubsetList) : Prop extends l.Wf where
  names : ∀ s ∈ l.nodes, LetterName s.name

variable {rps : Rps} {l : SubsetList}

theorem lettered_keeps : Keeps Lettered LetterName where
  nil := ⟨.nil, by simp⟩
  add l n major minor hl hn := by
    refine ⟨riscvAddSubset_wf hl.toWf n major minor, ?_⟩
    intro s hs
    rcases mem_of_mem_add hl.toWf hs with rfl | hs
    · exact hn
    · exact hl.names s hs
  remove l n hl := by
    refine ⟨riscvRemoveSubset_wf hl.toWf n, ?_⟩
    intro s hs
    exact hl.names s ((mem_remove hl.toWf n).mp hs).1
  parsed n hn := hn.length_eq_one

theorem supports_eq (hl : l.Wf) (n : Name) : l.supports n = (entry n l.nodes).isSome := by
  rw [SubsetList.supports, find_eq hl]

theorem LetThrough.lettered {p rest : List Char} {t : Token} (h : LetThrough true p t rest) : LetterName t.name := by
  intro horder
  by_contra hone
  have hempty := h.nonempty
  exact class_ne_single_of_recognized (h.known (by omega) rfl) (class_eq_single_of_headOrder horder)

/-- `.option arch` keeps the names. -/
theorem update_lettered (hcheck : rps.checkUnknownPrefixedExt = true) {st : OptionState}
    (hl : Lettered st.parse.list) (str : List Char) : Lettered (st.update rps str).parse.list := by
  have h : Lettered (riscvUpdateSubset rps str st.parse).2.list := by
    refine lettered_keeps.update hl fun q t rest _ hnext => ?_
    rw [hcheck] at hnext
    exact LetThrough.lettered (nextUpdate_letThrough hnext)
  exact ⟨⟨h.ordered, h.tail⟩, h.names⟩

end Lettered

/-! ## rvc and norvc -/

section Rvc

variable {rps : Rps} {st : OptionState}

theorem update_of_item {str : List Char} {item : Item}
    (hitems : updateItems rps.checkUnknownPrefixedExt str (str.length + 1) str = some [item]) (st : OptionState) :
    (st.update rps str).parse.list.nodes =
      (riscvParseAddImplicitSubsets rps (item.run rps st.parse)).list.nodes := by
  have hrun : riscvUpdateSubset rps str st.parse =
      riscvParseCheckConflicts (riscvParseAddImplicitSubsets rps (item.run rps st.parse)) :=
    updateLoop_of_items hitems st.parse
  have hnodes : (st.update rps str).parse.list.nodes = (riscvUpdateSubset rps str st.parse).2.list.nodes := rfl
  rw [hnodes, hrun, (riscvParseCheckConflicts_list _).1]

theorem entry_add_of_isSome {l : SubsetList} (hl : l.Wf) (n k : Name) (major minor : Int)
    (h : (entry k l.nodes).isSome = true) : (entry k (riscvAddSubset l n major minor).nodes).isSome = true := by
  rw [entry_add hl, Option.isSome_or, h]
  rfl

/-- After rvc c is in the list. -/
theorem update_rvc (hcheck : rps.checkUnknownPrefixedExt = true) (hl : Lettered st.parse.list) :
    (st.update rps "+c".toList).parse.list.supports ['c'] = true := by
  have hself : riscvCompareSubsets ['c'] ['c'] = .eq := ReflCmp.compare_self
  rw [supports_eq (update_lettered hcheck hl _).toWf,
    @update_of_item rps _ (.add ['c'] riscvUnknownVersion riscvUnknownVersion) (by rw [hcheck]; decide +kernel),
    Item.run]
  suffices h : (riscvParseAddImplicitSubsets rps (riscvParseAddSubset rps st.parse ['c'] riscvUnknownVersion
      riscvUnknownVersion true)).list.Wf ∧ (entry ['c'] (riscvParseAddImplicitSubsets rps (riscvParseAddSubset rps
        st.parse ['c'] riscvUnknownVersion riscvUnknownVersion true)).list.nodes).isSome = true from h.2
  refine @riscvParseAddImplicitSubsets_keeps rps _ (fun l => l.Wf ∧ (entry ['c'] l.nodes).isSome = true) ?_ ?_
  · rintro l r - major minor - ⟨hwf, hsome⟩
    exact ⟨riscvAddSubset_wf hwf _ _ _, entry_add_of_isSome hwf _ _ _ _ hsome⟩
  · rw [riscvParseAddSubset_implicit]
    refine ⟨riscvAddSubset_wf hl.toWf _ _ _, ?_⟩
    rw [entry_add hl.toWf, if_pos hself, Option.isSome_or]
    exact Bool.or_true _

/-- What is absent stays absent if no row leads to it from anything present. -/
theorem addImplicit_absent {parse : ParseState} {K : List Name}
    (hrows : ∀ r ∈ riscvImplicitSubsets, ∀ k ∈ K, riscvCompareSubsets r.implicitName k = .eq → r.subsetName ∈ K)
    (hl : parse.list.Wf) (habsent : ∀ k ∈ K, entry k parse.list.nodes = none) :
    ∀ k ∈ K, entry k (riscvParseAddImplicitSubsets rps parse).list.nodes = none := by
  suffices h : (riscvParseAddImplicitSubsets rps parse).list.Wf ∧
      ∀ k ∈ K, entry k (riscvParseAddImplicitSubsets rps parse).list.nodes = none from h.2
  refine @riscvParseAddImplicitSubsets_keeps rps _ (fun l => l.Wf ∧ ∀ k ∈ K, entry k l.nodes = none) ?_
    ⟨hl, habsent⟩
  rintro l r hr major minor hfires ⟨hwf, hnone⟩
  refine ⟨riscvAddSubset_wf hwf _ _ _, fun k hk => ?_⟩
  rw [entry_add hwf, hnone k hk, Option.none_or]
  split
  · rename_i heq
    -- the row fires, so what it starts from is there
    have hsource := hnone _ (hrows r hr k hk heq)
    rw [ImplicitSubset.fires, find_eq hwf, hsource] at hfires
    cases hfires
  · rfl

/-- c goes for good. -/
theorem entry_remove_c {l : SubsetList} (hl : Lettered l) : entry ['c'] (riscvRemoveSubset l ['c']).nodes = none := by
  refine findKey_eq_none_iff.mpr fun s hs heq => ?_
  obtain ⟨hs, hne⟩ := (mem_remove hl.toWf ['c']).mp hs
  have hpos : 0 < headOrder s.name := by
    by_contra hzero
    have hrank := (key_eq_of_compare heq).1
    rw [rank, if_neg hzero] at hrank
    cases hrank
  -- such a name is a letter, and the order tells letters apart
  have hparsed : ParsedName s.name := .inl ⟨hl.names s hs hpos, hpos⟩
  have hgood : GoodName ['c'] := by decide
  exact hne (hgood.eq_of_compare hparsed (OrientedCmp.eq_symm heq)).symm

/-- After norvc there is neither c nor zca, if nothing brings zca. -/
theorem update_norvc (hcheck : rps.checkUnknownPrefixedExt = true) (hl : Lettered st.parse.list)
    (hzca : ∀ n ∈ zcaFamily, st.parse.list.supports n = false) :
    (st.update rps "-c".toList).parse.list.supports ['c'] = false ∧
      (st.update rps "-c".toList).parse.list.supports "zca".toList = false := by
  have hwf := (update_lettered hcheck hl "-c".toList).toWf
  have hrows : ∀ r ∈ riscvImplicitSubsets, ∀ k ∈ ['c'] :: zcaFamily,
      riscvCompareSubsets r.implicitName k = .eq → r.subsetName ∈ ['c'] :: zcaFamily := by decide +kernel
  have hnone : ∀ k ∈ ['c'] :: zcaFamily, entry k (riscvRemoveSubset st.parse.list ['c']).nodes = none := by
    intro k hk
    rcases List.mem_cons.mp hk with rfl | hk
    · exact entry_remove_c hl
    · have hbefore := hzca k hk
      rw [supports_eq hl.toWf, Option.isSome_eq_false_iff, Option.isNone_iff_eq_none] at hbefore
      refine findKey_eq_none_iff.mpr fun s hs => ?_
      exact findKey_eq_none_iff.mp hbefore s ((mem_remove hl.toWf ['c']).mp hs).1
  have habsent := @addImplicit_absent rps { st.parse with list := riscvRemoveSubset st.parse.list ['c'] } _ hrows
    (riscvRemoveSubset_wf hl.toWf ['c']) hnone
  have hnodes : (st.update rps "-c".toList).parse.list.nodes = _ :=
    @update_of_item rps _ (.remove ['c']) (by rw [hcheck]; decide +kernel) st
  have hgone : ∀ k ∈ ['c'] :: zcaFamily, (st.update rps "-c".toList).parse.list.supports k = false := by
    intro k hk
    rw [supports_eq hwf, hnodes]
    exact Option.isSome_eq_false_iff.mpr (Option.isNone_iff_eq_none.mpr (habsent k hk))
  exact ⟨hgone _ (by decide), hgone _ (by decide)⟩

end Rvc

/-! ## The invariant -/

section Invariant

variable {rps : Rps} {st : OptionState}

/-- Options and a list that agree, with the flag of the object file. -/
structure RvcEntry (opts : SetOptions) (l : SubsetList) (efRvc : Bool) : Prop where
  lettered : Lettered l
  rvc : opts.rvc = true ↔ l.supports ['c'] = true ∨ l.supports "zca".toList = true
  flag : opts.rvc = true → efRvc = true

theorem RvcEntry.mono {opts : SetOptions} {l : SubsetList} {ef ef' : Bool} (h : RvcEntry opts l ef)
    (hef : ef = true → ef' = true) : RvcEntry opts l ef' :=
  ⟨h.lettered, h.rvc, fun hrvc => hef (h.flag hrvc)⟩

/-- What the options and the list are now, and what every push has saved. -/
structure RvcInv (st : OptionState) : Prop where
  current : RvcEntry st.opts st.parse.list st.efRvc
  stack : ∀ saved ∈ st.stack, RvcEntry saved.1 saved.2 st.efRvc

/-- `riscv_set_rvc` with what the list says. -/
theorem RvcInv.setRvc {value : Bool} (hl : Lettered st.parse.list)
    (hvalue : value = true ↔ st.parse.list.supports ['c'] = true ∨ st.parse.list.supports "zca".toList = true)
    (hstack : ∀ saved ∈ st.stack, RvcEntry saved.1 saved.2 st.efRvc) : RvcInv (st.riscvSetRvc value) := by
  constructor
  · refine ⟨hl, hvalue, fun hrvc => ?_⟩
    have hrvc : value = true := hrvc
    rw [OptionState.riscvSetRvc, hrvc]
    exact Bool.or_true _
  · intro saved hsaved
    refine (hstack saved hsaved).mono fun hef => ?_
    rw [OptionState.riscvSetRvc, hef]
    rfl

/-- The flags that are set anew agree with any list. -/
theorem RvcInv.setFlags (hl : Lettered st.parse.list)
    (hstack : ∀ saved ∈ st.stack, RvcEntry saved.1 saved.2 st.efRvc) : RvcInv st.setFlags := by
  have hset : RvcInv (if st.parse.list.supports ['c'] || st.parse.list.supports "zca".toList then
      (st.riscvSetRvc false).riscvSetRvc true else st.riscvSetRvc false) := by
    split
    · rename_i h
      rw [Bool.or_eq_true] at h
      refine RvcInv.setRvc hl ⟨fun _ => h, fun _ => rfl⟩ fun saved hsaved => ?_
      exact (hstack saved hsaved).mono fun hef => by rw [OptionState.riscvSetRvc, hef]; rfl
    · rename_i h
      rw [Bool.or_eq_true] at h
      exact RvcInv.setRvc hl ⟨fun h => absurd h Bool.false_ne_true, fun h' => absurd h' h⟩ hstack
  -- the other flag is no part of it
  have htso {st' : OptionState} (h : RvcInv st') :
      RvcInv (if st'.parse.list.supports "ztso".toList then { st' with efTso := true } else st') := by
    split
    · exact ⟨h.current, h.stack⟩
    · exact h
  exact htso hset

theorem RvcInv.setArch (h : RvcInv st) (s : Option (List Char)) :
    RvcInv ((riscvSetArch rps s st).toOption.getD st) := by
  unfold riscvSetArch
  split
  · exact h
  · have hparsed : Lettered (riscvParseSubset rps s
        { st.parse with list := riscvReleaseSubsetList st.parse.list }).2.list :=
      lettered_keeps.parse lettered_keeps.nil s
    exact RvcInv.setFlags ⟨⟨hparsed.ordered, hparsed.tail⟩, hparsed.names⟩ h.stack

/-- An option that leaves the flag, the list and the stack alone. -/
theorem RvcInv.frame (h : RvcInv st) {opts : SetOptions} (hrvc : opts.rvc = st.opts.rvc)
    (messages : List OptionMessage) : RvcInv { st with opts, messages } :=
  ⟨⟨h.current.lettered, hrvc ▸ h.current.rvc, hrvc ▸ h.current.flag⟩, h.stack⟩

theorem RvcInv.push (h : RvcInv st) (hne : st.parse.list.nodes ≠ []) (junk : Option Name) :
    RvcInv (optionPush junk st) := by
  have hl := h.current.lettered
  have hcopy : Lettered (copiedSubsetList junk st.parse.list) :=
    ⟨copiedSubsetList_wf hl.toWf hne junk, hl.names⟩
  -- the copy is searched as the list is
  have hsupports : ∀ n, (copiedSubsetList junk st.parse.list).supports n = st.parse.list.supports n := by
    intro n
    rw [supports_eq hcopy.toWf, supports_eq hl.toWf]
    rfl
  constructor
  · refine ⟨hcopy, ?_, h.current.flag⟩
    have hrvc := h.current.rvc
    rw [← hsupports, ← hsupports] at hrvc
    exact hrvc
  · intro saved hsaved
    rcases List.mem_cons.mp hsaved with rfl | hsaved
    · exact h.current
    · exact h.stack saved hsaved

theorem RvcInv.pop (h : RvcInv st) : RvcInv (optionPop st) := by
  unfold optionPop
  split
  · exact h.frame rfl _
  · rename_i opts list stack hstack
    constructor
    · exact h.stack (opts, list) (by rw [hstack]; exact List.mem_cons_self)
    · intro saved hsaved
      exact h.stack saved (by rw [hstack]; exact List.mem_cons_of_mem _ hsaved)

/-- Every `.option` keeps the invariant under its condition. -/
theorem RvcInv.option (hcheck : rps.checkUnknownPrefixedExt = true) (h : RvcInv st) {line : OptionLine}
    (hok : (ArchStep.option line).Ok st) : RvcInv (sRiscvOption rps st line) := by
  have hl := h.current.lettered
  have hstep := directive_sRiscvOption rps st line
  generalize sRiscvOption rps st line = after at hstep ⊢
  cases hstep with
  | rvc =>
    exact RvcInv.setRvc (update_lettered hcheck hl _) ⟨fun _ => .inl (update_rvc hcheck hl), fun _ => rfl⟩ h.stack
  | norvc hname =>
    obtain ⟨hc, hzca⟩ := update_norvc hcheck hl (hok.norvc line rfl hname)
    refine RvcInv.setRvc (update_lettered hcheck hl _) ?_ h.stack
    rw [hc, hzca]
    simp
  | set opts _ hrvc => exact h.frame hrvc _
  | @arch str =>
    rw [optionArch_eq]
    exact RvcInv.setFlags (update_lettered hcheck hl str) h.stack
  | push hname => exact h.push (hok.push line rfl hname) line.junk
  | pop => exact h.pop
  | unrecognized => exact h.frame rfl _

/-- A norvc keeps flag and list together exactly when nothing in the list is, or brings, zca. -/
theorem norvc_rvcAgrees_iff (hcheck : rps.checkUnknownPrefixedExt = true) (hl : st.parse.list.Parsed)
    (junk : Option Name) :
    RvcAgrees (sRiscvOption rps st ⟨"norvc".toList, junk⟩) ↔
      ∀ n ∈ zcaFamily, st.parse.list.supports n = false := by
  have hlettered : Lettered st.parse.list := ⟨hl.toWf, fun s hs => (hl.names s hs).length_eq_one⟩
  have hstep : sRiscvOption rps st ⟨"norvc".toList, junk⟩ = (st.update rps "-c".toList).riscvSetRvc false := rfl
  rw [hstep]
  constructor
  · intro hagrees n hn
    have hgood : ∀ n ∈ zcaFamily, GoodName n ∧ n ≠ ['c'] := by decide
    by_contra hsupports
    obtain ⟨s, hs, rfl⟩ := (hl.supports_iff (hgood n hn).1).mp (Bool.not_eq_false _ ▸ hsupports)
    -- what brings zca is still there when the implied extensions are added
    obtain ⟨-, hgrow, hc⟩ := @addImplicitSubsets_spec rps riscvImplicitSubsets
      { st.parse with list := riscvRemoveSubset st.parse.list ['c'] } riscvImplicitSubsets_good (hl.remove ['c'])
    have hleast := hc.leastClosure riscvImplicitSubsets_good (hl.remove ['c']) hgrow.parsed.ordered
    have hkept := hleast.kept s ((mem_remove hl.toWf ['c']).mpr ⟨hs, (hgood _ hn).2⟩)
    have hzca : ∃ t ∈ (st.update rps "-c".toList).parse.list.nodes, t.name = "zca".toList := by
      have hnodes : (st.update rps "-c".toList).parse.list.nodes = _ :=
        @update_of_item rps _ (.remove ['c']) (by rw [hcheck]; decide +kernel) st
      rw [hnodes]
      have hrows : ∀ n ∈ zcaFamily, n = "zca".toList ∨ ⟨n, "zca".toList, .always⟩ ∈ riscvImplicitSubsets := by
        decide +kernel
      rcases hrows _ hn with hname | hrow
      · exact ⟨s, hkept, hname⟩
      · exact hleast.closed _ hrow s hkept rfl rfl
    obtain ⟨t, ht, htname⟩ := hzca
    have hwf := (update_lettered hcheck hlettered "-c".toList).toWf
    have hentry := entry_of_mem hwf.ordered ht
    have hrvc := hagrees.list.mpr (.inr (by
      rw [OptionState.riscvSetRvc, supports_eq hwf, ← htname, hentry]
      rfl))
    cases hrvc
  · intro hzca
    obtain ⟨hc, hzca⟩ := update_norvc hcheck hlettered hzca
    refine ⟨⟨fun h => absurd h Bool.false_ne_true, ?_⟩, fun h => absurd h Bool.false_ne_true⟩
    rintro (h | h)
    · exact absurd (hc.symm.trans h) Bool.false_ne_true
    · exact absurd (hzca.symm.trans h) Bool.false_ne_true

/-- In every state that is reached by steps that meet their conditions, the flag agrees with the list. -/
theorem archReached_inv (hcheck : rps.checkUnknownPrefixedExt = true) (h : ArchReached rps st) : RvcInv st := by
  induction h with
  | start opts xlen =>
    refine ⟨⟨lettered_keeps.nil, ⟨fun h => absurd h Bool.false_ne_true, ?_⟩, fun h => h⟩, by simp⟩
    rintro (h | h) <;> cases h
  | @step st op _ hok ih =>
    cases op with
    | setArch s => exact ih.setArch s
    | option line => exact ih.option hcheck hok

theorem archReached_rvcAgrees (rps : Rps) (hcheck : rps.checkUnknownPrefixedExt = true) (st : OptionState)
    (h : ArchReached rps st) : RvcAgrees st := by
  have hinv := archReached_inv hcheck h
  exact ⟨hinv.current.rvc, hinv.current.flag⟩

/-- `-march=rv64i`, and c between push and pop. -/
theorem pop_rvcAgrees :
    RvcAgrees (([.setArch (some "rv64i".toList), .option ⟨"push".toList, none⟩, .option ⟨"rvc".toList, none⟩,
      .option ⟨"pop".toList, none⟩] : List ArchStep).foldl (ArchStep.run gasRps) {}) := by
  have hplain {st : OptionState} {line : OptionLine} (hnorvc : line.name ≠ "norvc".toList)
      (hpush : line.name = "push".toList → st.parse.list.nodes ≠ []) : (ArchStep.option line).Ok st := by
    constructor
    · rintro line' ⟨⟩ hname
      exact absurd hname hnorvc
    · rintro line' ⟨⟩ hname
      exact hpush hname
  have harch : ArchReached gasRps (ArchStep.run gasRps {} (.setArch (some "rv64i".toList))) := by
    refine ArchReached.step (ArchReached.start {} 0) ⟨?_, ?_⟩
    · rintro line ⟨⟩
    · rintro line ⟨⟩
  have hpush := @ArchReached.step gasRps _ (.option ⟨"push".toList, none⟩) harch
    (hplain (by decide) fun _ => by decide +kernel)
  have hrvc := @ArchReached.step gasRps _ (.option ⟨"rvc".toList, none⟩) hpush (hplain (by decide) (by decide))
  have hpop := @ArchReached.step gasRps _ (.option ⟨"pop".toList, none⟩) hrvc (hplain (by decide) (by decide))
  exact archReached_rvcAgrees gasRps rfl _ hpop

/-- After `.option norvc` the zca of `-march=rv64i_zca` is still there, without the flag. -/
theorem norvc_zca :
    (riscvUpdateSubset gasRps "-c".toList
        (ArchStep.run gasRps {} (.setArch (some "rv64i_zca".toList))).parse).1 = true ∧
      ¬RvcAgrees (([.setArch (some "rv64i_zca".toList), .option ⟨"norvc".toList, none⟩] : List ArchStep).foldl
        (ArchStep.run gasRps) {}) := by
  obtain ⟨hupdate, hzca⟩ : (riscvUpdateSubset gasRps "-c".toList
        (ArchStep.run gasRps {} (.setArch (some "rv64i_zca".toList))).parse).1 = true ∧
      (([.setArch (some "rv64i_zca".toList), .option ⟨"norvc".toList, none⟩] : List ArchStep).foldl
        (ArchStep.run gasRps) {}).parse.list.supports "zca".toList = true := by
    decide +kernel
  refine ⟨hupdate, fun h => ?_⟩
  have hrvc := h.list.mpr (.inr hzca)
  cases hrvc

end Invariant

end RiscvBinutils.Gas
