/-
The `.option` directive (gas/config/tc-riscv.c, `s_riscv_option`): the options it sets, the list of extensions and
the stack of both.
-/
import RiscvBinutils.Gas.Expr
import RiscvBinutils.Isa.Render

namespace RiscvBinutils.Gas

open RiscvBinutils.Isa

/-! ## The directive -/

/-- `struct riscv_set_options`. -/
structure SetOptions where
  pic : Bool := false
  rvc : Bool := false
  relax : Bool := true
  archAttr : Bool := false
  csrCheck : Bool := false
  deriving DecidableEq, Repr

/-- What `as_bad` and `as_warn` are called with by the directive itself. -/
inductive OptionMessage
  /-- ".option pop with no .option push". -/
  | popWithoutPush
  /-- "unrecognized .option directive: %s". -/
  | unrecognized (name : List Char)
  deriving DecidableEq, Repr

/-- `riscv_opts`, the list of `riscv_rps_as` with the global `xlen`, `riscv_opts_stack`, the flags set in
`elf_flags` and the messages. -/
structure OptionState where
  opts : SetOptions := {}
  parse : ParseState := {}
  stack : List (SetOptions × SubsetList) := []
  efRvc : Bool := false
  efTso : Bool := false
  messages : List OptionMessage := []
  deriving DecidableEq, Repr

/-- `riscv_set_rvc`. -/
def OptionState.riscvSetRvc (st : OptionState) (value : Bool) : OptionState :=
  { st with opts := { st.opts with rvc := value }, efRvc := st.efRvc || value }

/-- `riscv_reset_subsets_list_arch_str`. -/
def OptionState.riscvResetArchStr (st : OptionState) : OptionState :=
  { st with parse := { st.parse with list :=
      { st.parse.list with archStr := some (riscvArchStr st.parse.xlen st.parse.list) } } }

/-- `riscv_update_subset` and the arch string after it. -/
def OptionState.update (rps : Rps) (str : List Char) (st : OptionState) : OptionState :=
  { st with parse := (riscvUpdateSubset rps str st.parse).2 }.riscvResetArchStr

/-- The string of `.option arch,`. -/
def archOperand (name : List Char) : Option (List Char) :=
  if "arch,".toList.isPrefixOf name then
    let operand := name.drop 5
    some (if operand.head?.any isSpace then operand.drop 1 else operand)
  else none

/-- The rest of the line after `.option`.  For an empty list `junk` is the tail of the copy that `push` makes. -/
structure OptionLine where
  name : List Char
  junk : Option Name := none
  deriving DecidableEq, Repr

/-- The part of `s_riscv_option` for `arch,`. -/
def optionArch (rps : Rps) (str : List Char) (st : OptionState) : OptionState :=
  let st := st.update rps str
  let st := st.riscvSetRvc false
  let st := if st.parse.list.supports ['c'] || st.parse.list.supports "zca".toList then st.riscvSetRvc true else st
  if st.parse.list.supports "ztso".toList then { st with efTso := true } else st

/-- The part of `s_riscv_option` for `push`.  The assembler always has an arch string to copy (`push_copies`). -/
def optionPush (junk : Option Name) (st : OptionState) : OptionState :=
  { st with
    stack := (st.opts, st.parse.list) :: st.stack
    parse := { st.parse with list := copiedSubsetList junk st.parse.list } }

/-- The part of `s_riscv_option` for `pop`. -/
def optionPop (st : OptionState) : OptionState :=
  match st.stack with
  | [] => { st with messages := st.messages ++ [.popWithoutPush] }
  | (opts, list) :: stack => { st with opts, stack, parse := { st.parse with list } }

/-- `s_riscv_option`. -/
def sRiscvOption (rps : Rps) (st : OptionState) (line : OptionLine) : OptionState :=
  if line.name = "rvc".toList then (st.update rps "+c".toList).riscvSetRvc true
  else if line.name = "norvc".toList then (st.update rps "-c".toList).riscvSetRvc false
  else if line.name = "pic".toList then { st with opts := { st.opts with pic := true } }
  else if line.name = "nopic".toList then { st with opts := { st.opts with pic := false } }
  else if line.name = "relax".toList then { st with opts := { st.opts with relax := true } }
  else if line.name = "norelax".toList then { st with opts := { st.opts with relax := false } }
  else if line.name = "csr-check".toList then { st with opts := { st.opts with csrCheck := true } }
  else if line.name = "no-csr-check".toList then { st with opts := { st.opts with csrCheck := false } }
  else
    match archOperand line.name with
    | some str => optionArch rps str st
    | none =>
      if line.name = "push".toList then optionPush line.junk st
      else if line.name = "pop".toList then optionPop st
      else { st with messages := st.messages ++ [.unrecognized line.name] }

/-- What a directive does, by the name of its option. -/
inductive Directive (rps : Rps) (st : OptionState) (line : OptionLine) : OptionState → Prop
  | rvc (hname : line.name = "rvc".toList) : Directive rps st line ((st.update rps "+c".toList).riscvSetRvc true)
  | norvc (hname : line.name = "norvc".toList) : Directive rps st line ((st.update rps "-c".toList).riscvSetRvc false)
  /-- The options that are only set. -/
  | set (opts : SetOptions) (harch : archOperand line.name = none) (hrvc : opts.rvc = st.opts.rvc)
      (hrelax : line.name ≠ "norelax".toList → st.opts.relax = true → opts.relax = true) :
      Directive rps st line { st with opts }
  | arch {str : List Char} (harch : archOperand line.name = some str) : Directive rps st line (optionArch rps str st)
  | push (hname : line.name = "push".toList) : Directive rps st line (optionPush line.junk st)
  | pop (hname : line.name = "pop".toList) : Directive rps st line (optionPop st)
  | unrecognized (harch : archOperand line.name = none) :
      Directive rps st line { st with messages := st.messages ++ [.unrecognized line.name] }

theorem directive_sRiscvOption (rps : Rps) (st : OptionState) (line : OptionLine) :
    Directive rps st line (sRiscvOption rps st line) := by
  unfold sRiscvOption
  by_cases hrvc : line.name = "rvc".toList
  · rw [if_pos hrvc]
    exact .rvc hrvc
  rw [if_neg hrvc]
  by_cases hnorvc : line.name = "norvc".toList
  · rw [if_pos hnorvc]
    exact .norvc hnorvc
  rw [if_neg hnorvc]
  by_cases hpic : line.name = "pic".toList
  · rw [if_pos hpic]
    exact .set _ (hpic ▸ by decide) rfl fun _ h => h
  rw [if_neg hpic]
  by_cases hnopic : line.name = "nopic".toList
  · rw [if_pos hnopic]
    exact .set _ (hnopic ▸ by decide) rfl fun _ h => h
  rw [if_neg hnopic]
  by_cases hrelax : line.name = "relax".toList
  · rw [if_pos hrelax]
    exact .set _ (hrelax ▸ by decide) rfl fun _ _ => rfl
  rw [if_neg hrelax]
  by_cases hnorelax : line.name = "norelax".toList
  · rw [if_pos hnorelax]
    exact .set _ (hnorelax ▸ by decide) rfl fun hnot => absurd hnorelax hnot
  rw [if_neg hnorelax]
  by_cases hcsr : line.name = "csr-check".toList
  · rw [if_pos hcsr]
    exact .set _ (hcsr ▸ by decide) rfl fun _ h => h
  rw [if_neg hcsr]
  by_cases hnocsr : line.name = "no-csr-check".toList
  · rw [if_pos hnocsr]
    exact .set _ (hnocsr ▸ by decide) rfl fun _ h => h
  rw [if_neg hnocsr]
  cases harch : archOperand line.name with
  | some str => exact .arch harch
  | none =>
    dsimp only
    by_cases hpush : line.name = "push".toList
    · rw [if_pos hpush]
      exact .push hpush
    rw [if_neg hpush]
    by_cases hpop : line.name = "pop".toList
    · rw [if_pos hpop]
      exact .pop hpop
    rw [if_neg hpop]
    exact .unrecognized harch

/-- The directives of a program, one after the other. -/
def runOptions (rps : Rps) (st : OptionState) (lines : List OptionLine) : OptionState :=
  lines.foldl (sRiscvOption rps) st

/-! ## The width of the registers -/

/-- The XLEN that a string given to `riscv_update_subset` sets: that of the ISA string after the extensions with
a sign. -/
def updateXlen (check : Bool) (str : List Char) : (fuel : Nat) → List Char → Option Nat
  | 0, _ => none
  | fuel + 1, p =>
    match p with
    | '+' :: q | '-' :: q =>
      match nextUpdate check str q with
      | .error _ => none
      | .ok (_, rest) =>
        match rest with
        | ',' :: rest => updateXlen check str fuel rest
        | _ => none
    | _ => if p.any isUpper then none else (archXlen p).map (·.1)

/-- The XLEN that a directive sets, if it sets one. -/
def OptionLine.xlen (rps : Rps) (line : OptionLine) : Option Nat :=
  (archOperand line.name).bind fun str => updateXlen rps.checkUnknownPrefixedExt str (str.length + 1) str

/-! ## What is kept of the XLEN -/

section Xlen

variable {rps : Rps}

theorem riscvParseAddSubset_xlen (st : ParseState) (subset : Name) (major minor : Int) (implicit : Bool) :
    (riscvParseAddSubset rps st subset major minor implicit).xlen = st.xlen := by
  unfold riscvParseAddSubset
  dsimp only
  split
  · split
    · rfl
    · split <;> rfl
  · rfl

theorem foldl_addToken_xlen (ts : List Token) (st : ParseState) : (ts.foldl (addToken rps) st).xlen = st.xlen := by
  induction ts generalizing st with
  | nil => rfl
  | cons t ts ih =>
    rw [List.foldl_cons, ih, addToken]
    split <;> exact riscvParseAddSubset_xlen st _ _ _ _

theorem riscvParseExtensions_xlen (arch p : List Char) (st : ParseState) :
    (riscvParseExtensions rps arch p st).2.xlen = st.xlen := by
  unfold riscvParseExtensions
  dsimp only
  split
  · split
    · exact foldl_addToken_xlen _ st
    · exact foldl_addToken_xlen _ st
  · rfl

theorem implicitLoop_xlen {rows : List ImplicitSubset} {fuel : Nat} {st st' : ParseState}
    (h : implicitLoop rps rows fuel st = some st') : st'.xlen = st.xlen := by
  induction fuel generalizing st with
  | zero => cases h
  | succ fuel ih =>
    rw [implicitLoop] at h
    split at h
    · cases h
      rfl
    · rw [ih h]
      exact riscvParseAddSubset_xlen st _ _ _ _

theorem checkedImplicit_xlen (st : ParseState) :
    (riscvParseCheckConflicts (riscvParseAddImplicitSubsets rps st)).2.xlen = st.xlen := by
  rw [(riscvParseCheckConflicts_list _).2, riscvParseAddImplicitSubsets, addImplicitSubsets]
  cases hloop : implicitLoop rps riscvImplicitSubsets (riscvImplicitSubsets.length + 1) st with
  | none => rfl
  | some st' => exact implicitLoop_xlen hloop

/-- `riscv_parse_subset` writes the XLEN before it looks at the extensions. -/
theorem riscvParseSubset_xlen (arch : List Char) (st : ParseState) :
    (riscvParseSubset rps (some arch) st).2.xlen =
      (if arch.any isUpper then none else (archXlen arch).map (·.1)).getD st.xlen := by
  rw [riscvParseSubset]
  split
  · rfl
  · cases harch : archXlen arch with
    | none =>
      dsimp only
      split <;> rfl
    | some xp =>
      obtain ⟨xlen, p⟩ := xp
      dsimp only
      have hext := @riscvParseExtensions_xlen rps arch p { st with xlen }
      split
      · rename_i st' heq
        rw [heq] at hext
        exact hext
      · rename_i st' heq
        rw [heq] at hext
        exact (checkedImplicit_xlen st').trans hext

theorem updateLoop_xlen (str : List Char) (fuel : Nat) (p : List Char) (st : ParseState) :
    (updateLoop rps str fuel p st).2.xlen =
      (updateXlen rps.checkUnknownPrefixedExt str fuel p).getD st.xlen := by
  induction fuel generalizing p st with
  | zero => rfl
  | succ fuel ih =>
    -- both signs go the same way
    have hsigned (removed : Bool) (q : List Char) :
        (match nextUpdate rps.checkUnknownPrefixedExt str q with
          | .error e => (false, st.report e)
          | .ok (t, rest) =>
            let st :=
              if removed then { st with list := riscvRemoveSubset st.list t.name }
              else riscvParseAddSubset rps st t.name t.major t.minor true
            match rest with
            | ',' :: rest => updateLoop rps str fuel rest st
            | _ => riscvParseCheckConflicts (riscvParseAddImplicitSubsets rps st)).2.xlen =
        (match nextUpdate rps.checkUnknownPrefixedExt str q with
          | .error _ => none
          | .ok (_, rest) =>
            match rest with
            | ',' :: rest => updateXlen rps.checkUnknownPrefixedExt str fuel rest
            | _ => none).getD st.xlen := by
      split
      · rfl
      · rename_i t rest _
        have hst : (if removed then { st with list := riscvRemoveSubset st.list t.name }
            else riscvParseAddSubset rps st t.name t.major t.minor true).xlen = st.xlen := by
          split
          · rfl
          · exact riscvParseAddSubset_xlen st _ _ _ _
        dsimp only
        split
        · rw [ih, hst]
        · rw [checkedImplicit_xlen, hst]
          rfl
    have hplain (hplus : ∀ q, p ≠ '+' :: q) (hminus : ∀ q, p ≠ '-' :: q) :
        (updateLoop rps str (fuel + 1) p st).2.xlen =
          (updateXlen rps.checkUnknownPrefixedExt str (fuel + 1) p).getD st.xlen := by
      have hloop : updateLoop rps str (fuel + 1) p st =
          riscvParseSubset rps (some p) { st with list := riscvReleaseSubsetList st.list } := by
        rw [updateLoop]
        · exact hplus
        · exact hminus
      have hxlen : updateXlen rps.checkUnknownPrefixedExt str (fuel + 1) p =
          if p.any isUpper then none else (archXlen p).map (·.1) := by
        rw [updateXlen]
        · exact hplus
        · exact hminus
      rw [hloop, hxlen]
      exact riscvParseSubset_xlen p _
    match p with
    | '+' :: q => exact hsigned false q
    | '-' :: q => exact hsigned true q
    | [] => exact hplain (by simp) (by simp)
    | c :: q =>
      by_cases hplus : c = '+'
      · rw [hplus]
        exact hsigned false q
      by_cases hminus : c = '-'
      · rw [hminus]
        exact hsigned true q
      exact hplain (by simp [hplus]) (by simp [hminus])

end Xlen

/-! ## The arch string is there -/

section ArchStr

variable {rps : Rps} {st : OptionState}

/-- The list has its arch string, and so have the lists on the stack. -/
structure OptionState.ArchSet (st : OptionState) : Prop where
  current : st.parse.list.archStr ≠ none
  stack : ∀ saved ∈ st.stack, saved.2.archStr ≠ none

/-- Every update is followed by `riscv_reset_subsets_list_arch_str`. -/
theorem OptionState.ArchSet.update (h : st.ArchSet) (str : List Char) : (st.update rps str).ArchSet :=
  ⟨Option.some_ne_none _, h.stack⟩

theorem OptionState.ArchSet.arch (h : st.ArchSet) (str : List Char) : (optionArch rps str st).ArchSet := by
  have hupdate : (st.update rps str).ArchSet := h.update str
  unfold optionArch
  dsimp only
  split <;> split <;> exact ⟨hupdate.current, hupdate.stack⟩

theorem OptionState.ArchSet.push (h : st.ArchSet) (junk : Option Name) : (optionPush junk st).ArchSet where
  current := h.current
  stack := by
    intro saved hsaved
    rcases List.mem_cons.mp hsaved with rfl | hsaved
    · exact h.current
    · exact h.stack saved hsaved

theorem OptionState.ArchSet.pop (h : st.ArchSet) : (optionPop st).ArchSet := by
  unfold optionPop
  split
  · exact ⟨h.current, h.stack⟩
  · rename_i opts list stack hstack
    refine ⟨h.stack (opts, list) (by rw [hstack]; exact List.mem_cons_self), fun saved hsaved => ?_⟩
    exact h.stack saved (by rw [hstack]; exact List.mem_cons_of_mem _ hsaved)

theorem OptionState.ArchSet.option (h : st.ArchSet) (line : OptionLine) : (sRiscvOption rps st line).ArchSet := by
  have hstep := directive_sRiscvOption rps st line
  generalize sRiscvOption rps st line = after at hstep ⊢
  cases hstep with
  | rvc => exact ⟨Option.some_ne_none _, h.stack⟩
  | norvc => exact ⟨Option.some_ne_none _, h.stack⟩
  | set opts => exact ⟨h.current, h.stack⟩
  | arch => exact h.arch _
  | push => exact h.push _
  | pop => exact h.pop
  | unrecognized => exact ⟨h.current, h.stack⟩

theorem OptionState.ArchSet.run (h : st.ArchSet) (lines : List OptionLine) : (runOptions rps st lines).ArchSet := by
  induction lines generalizing st with
  | nil => exact h
  | cons line lines ih => exact ih (h.option line)

/-- After any directives a push copies the list without a crash. -/
theorem push_copies (h : st.ArchSet) (lines : List OptionLine) (junk : Option Name) :
    riscvCopySubsetList junk (runOptions rps st lines).parse.list =
      some (optionPush junk (runOptions rps st lines)).parse.list :=
  if_neg (h.run lines).current

end ArchStr

/-! ## Push and pop -/

section PushPop

variable {rps : Rps} {st : OptionState} {lines : List OptionLine}

/-- Directives in which every push has its pop. -/
inductive Balanced : List OptionLine → Prop
  | nil : Balanced []
  | atom {line : OptionLine} (hpush : line.name ≠ "push".toList) (hpop : line.name ≠ "pop".toList) : Balanced [line]
  | append {lines lines' : List OptionLine} (h : Balanced lines) (h' : Balanced lines') : Balanced (lines ++ lines')
  | nested {push pop : OptionLine} {lines : List OptionLine} (hpush : push.name = "push".toList)
      (hpop : pop.name = "pop".toList) (h : Balanced lines) : Balanced (push :: lines ++ [pop])

/-- What governs the assembly of the lines that follow. -/
def OptionState.governing (st : OptionState) : SetOptions × SubsetList × Nat := (st.opts, st.parse.list, st.parse.xlen)

/-- The XLEN that the last of the directives with an ISA string sets. -/
def lastXlen (rps : Rps) (lines : List OptionLine) : Option Nat := lines.reverse.findSome? (OptionLine.xlen rps)

theorem update_xlen (str : List Char) (st : OptionState) :
    (st.update rps str).parse.xlen =
      (updateXlen rps.checkUnknownPrefixedExt str (str.length + 1) str).getD st.parse.xlen :=
  updateLoop_xlen str (str.length + 1) str st.parse

theorem updateXlen_c (check : Bool) : updateXlen check "+c".toList ("+c".toList.length + 1) "+c".toList = none ∧
    updateXlen check "-c".toList ("-c".toList.length + 1) "-c".toList = none := by
  cases check <;> decide

theorem optionArch_xlen (str : List Char) (st : OptionState) :
    (optionArch rps str st).parse.xlen = (st.update rps str).parse.xlen ∧
      (optionArch rps str st).stack = st.stack := by
  unfold optionArch
  dsimp only
  split <;> split <;> exact ⟨rfl, rfl⟩

theorem optionPop_xlen (st : OptionState) : (optionPop st).parse.xlen = st.parse.xlen := by
  unfold optionPop
  split <;> rfl

/-- A directive sets the XLEN only through an ISA string. -/
theorem sRiscvOption_xlen (st : OptionState) (line : OptionLine) :
    (sRiscvOption rps st line).parse.xlen = (line.xlen rps).getD st.parse.xlen := by
  have hplain {name : List Char} (h : line.name = name) (hname : archOperand name = none) : line.xlen rps = none := by
    rw [OptionLine.xlen, h, hname]
    rfl
  have hupdate {str : List Char} (hstr : updateXlen rps.checkUnknownPrefixedExt str (str.length + 1) str = none) :
      (st.update rps str).parse.xlen = st.parse.xlen := by
    rw [update_xlen, hstr]
    rfl
  have hstep := directive_sRiscvOption rps st line
  generalize sRiscvOption rps st line = after at hstep ⊢
  cases hstep with
  | rvc hname =>
    rw [hplain hname (by decide)]
    exact hupdate (updateXlen_c _).1
  | norvc hname =>
    rw [hplain hname (by decide)]
    exact hupdate (updateXlen_c _).2
  | set opts harch =>
    rw [hplain rfl harch]
    rfl
  | @arch str harch =>
    rw [OptionLine.xlen, harch]
    exact (optionArch_xlen str st).1.trans (update_xlen str st)
  | push hname =>
    rw [hplain hname (by decide)]
    rfl
  | pop hname =>
    rw [hplain hname (by decide)]
    exact optionPop_xlen st
  | unrecognized harch =>
    rw [hplain rfl harch]
    rfl

theorem runOptions_append (st : OptionState) (lines lines' : List OptionLine) :
    runOptions rps st (lines ++ lines') = runOptions rps (runOptions rps st lines) lines' := List.foldl_append

/-- A directive that is neither push nor pop leaves the stack alone. -/
theorem sRiscvOption_stack {line : OptionLine} (hpush : line.name ≠ "push".toList) (hpop : line.name ≠ "pop".toList) :
    (sRiscvOption rps st line).stack = st.stack := by
  have hstep := directive_sRiscvOption rps st line
  generalize sRiscvOption rps st line = after at hstep ⊢
  cases hstep with
  | arch => exact (optionArch_xlen _ st).2
  | push hname => exact absurd hname hpush
  | pop hname => exact absurd hname hpop
  | _ => rfl

theorem sRiscvOption_push {line : OptionLine} (h : line.name = "push".toList) :
    sRiscvOption rps st line = optionPush line.junk st := by
  obtain ⟨name, junk⟩ := line
  cases h
  rfl

theorem sRiscvOption_pop {line : OptionLine} (h : line.name = "pop".toList) :
    sRiscvOption rps st line = optionPop st := by
  obtain ⟨name, junk⟩ := line
  cases h
  rfl

theorem runOptions_pushPop {push pop : OptionLine} (hpush : push.name = "push".toList)
    (hpop : pop.name = "pop".toList) (st : OptionState) (lines : List OptionLine) :
    runOptions rps st (push :: lines ++ [pop]) = optionPop (runOptions rps (optionPush push.junk st) lines) := by
  rw [runOptions_append, ← sRiscvOption_pop hpop, ← sRiscvOption_push hpush]
  rfl

/-- A pop takes back what the push has saved, whatever stands between them. -/
theorem optionPop_of_stack {junk : Option Name} {st' : OptionState} (hstack : st'.stack = (optionPush junk st).stack) :
    (optionPop st').opts = st.opts ∧ (optionPop st').parse.list = st.parse.list ∧
      (optionPop st').stack = st.stack := by
  rw [optionPop, hstack]
  exact ⟨rfl, rfl, rfl⟩

theorem Balanced.stack (h : Balanced lines) (st : OptionState) : (runOptions rps st lines).stack = st.stack := by
  induction h generalizing st with
  | nil => rfl
  | atom hpush hpop => exact sRiscvOption_stack hpush hpop
  | append _ _ ih ih' => rw [runOptions_append, ih', ih]
  | nested hpush hpop _ ih =>
    rw [runOptions_pushPop hpush hpop]
    exact (optionPop_of_stack (ih _)).2.2

/-- The XLEN after some directives is that of the last one that sets it. -/
theorem runOptions_xlen (st : OptionState) (lines : List OptionLine) :
    (runOptions rps st lines).parse.xlen = (lastXlen rps lines).getD st.parse.xlen := by
  induction lines generalizing st with
  | nil => rfl
  | cons line lines ih =>
    have hlast : lastXlen rps (line :: lines) = (lastXlen rps lines).or (line.xlen rps) := by
      rw [lastXlen, List.reverse_cons, List.findSome?_append, List.findSome?_singleton]
      rfl
    rw [hlast]
    refine (ih _).trans ?_
    rw [sRiscvOption_xlen]
    cases lastXlen rps lines <;> cases line.xlen rps <;> rfl

/-- A pop restores what its push has saved, that is all but the XLEN: that is restored exactly when no directive
between them has an ISA string, or the last that has one sets the XLEN that was there. -/
theorem pop_restores_iff (st : OptionState) {push pop : OptionLine} (hpush : push.name = "push".toList)
    (hpop : pop.name = "pop".toList) (h : Balanced lines) :
    (runOptions rps st (push :: lines ++ [pop])).governing = st.governing ↔
      ∀ xlen, lastXlen rps lines = some xlen → xlen = st.parse.xlen := by
  have hstack : (runOptions rps (optionPush push.junk st) lines).stack = (optionPush push.junk st).stack := h.stack _
  obtain ⟨hopts, hlist, -⟩ := optionPop_of_stack hstack
  have hxlen : (optionPop (runOptions rps (optionPush push.junk st) lines)).parse.xlen =
      (lastXlen rps lines).getD st.parse.xlen := by
    rw [optionPop_xlen, runOptions_xlen]
    rfl
  rw [runOptions_pushPop hpush hpop, OptionState.governing, OptionState.governing, hopts, hlist, hxlen, Prod.mk.injEq,
    Prod.mk.injEq]
  constructor
  · rintro ⟨-, -, hsame⟩ xlen hlast
    rw [hlast] at hsame
    exact hsame
  · intro hsame
    refine ⟨rfl, rfl, ?_⟩
    cases hlast : lastXlen rps lines with
    | none => rfl
    | some xlen => exact hsame xlen hlast

/-- The state of an assembler for `rv64i`. -/
def rv64State : OptionState :=
  { parse := (riscvParseSubset ⟨some .c20191213, true⟩ (some "rv64i".toList) {}).2 : OptionState }.riscvResetArchStr

theorem pop_after_arch_c :
    (runOptions ⟨some .c20191213, true⟩ rv64State
      [⟨"push".toList, none⟩, ⟨"arch,+c".toList, none⟩, ⟨"pop".toList, none⟩]).governing = rv64State.governing := by
  have hline : Balanced [⟨"arch,+c".toList, none⟩] := .atom (by decide) (by decide)
  refine (pop_restores_iff rv64State rfl rfl hline).mpr ?_
  have hnone : lastXlen ⟨some .c20191213, true⟩ [⟨"arch,+c".toList, none⟩] = none := by decide
  intro xlen hlast
  rw [hnone] at hlast
  cases hlast

/-- The `rv32i` between push and pop is still there after the pop as the XLEN. -/
theorem pop_keeps_rv32 :
    ¬ ∀ (rps : Rps) (st : OptionState) (push pop : OptionLine) (lines : List OptionLine),
      push.name = "push".toList → pop.name = "pop".toList → Balanced lines →
        (runOptions rps st (push :: lines ++ [pop])).governing = st.governing := by
  intro h
  have hline : Balanced [⟨"arch,rv32i".toList, none⟩] := .atom (by decide) (by decide)
  have hsame := h ⟨some .c20191213, true⟩ rv64State ⟨"push".toList, none⟩ ⟨"pop".toList, none⟩ _ rfl rfl hline
  have hxlen := congrArg (·.2.2) hsame
  revert hxlen
  decide +kernel

end PushPop

end RiscvBinutils.Gas
