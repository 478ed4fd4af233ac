/-
The representation of the subset list over whole runs of the functions that change it (bfd/elfxx-riscv.c).  All
of them keep it, but the copy of an empty list.
-/
import RiscvBinutils.Isa.Parsed

namespace RiscvBinutils.Isa

open Std RiscvBinutils.Base

/-! ## Runs -/

/-- A call of one of the functions, or what their callers do with `arch_str`. -/
inductive ListOp
  | add (subset : Name) (major minor : Int)
  | remove (subset : Name)
  | parse (rps : Rps) (arch : Option (List Char))
  | update (rps : Rps) (str : List Char)
  /-- The caller sets `arch_str`, as `riscv_reset_subsets_list_arch_str` does with what `riscv_arch_str` returns. -/
  | setArchStr (archStr : List Char)
  /-- The copy takes the place of the list; `junk` is what the memory of its `tail` holds. -/
  | copy (junk : Option Name)
  | release

/-- What a call leaves, whether it succeeds or fails; `none` if it reads a null pointer. -/
def ListOp.run (st : ParseState) : ListOp → Option ParseState
  | .add subset major minor => some { st with list := riscvAddSubset st.list subset major minor }
  | .remove subset => some { st with list := riscvRemoveSubset st.list subset }
  | .parse rps arch => some (riscvParseSubset rps arch st).2
  | .update rps str => some (riscvUpdateSubset rps str st).2
  | .setArchStr archStr => some { st with list := { st.list with archStr := some archStr } }
  | .copy junk => (riscvCopySubsetList junk st.list).map fun list => { st with list }
  | .release => some { st with list := riscvReleaseSubsetList st.list }

/-- Calls one after the other. -/
def runOps : List ListOp → ParseState → Option ParseState
  | [], st => some st
  | op :: ops, st => (op.run st).bind (runOps ops)

/-- A list that is copied is not empty and has its `arch_str`, and names added are names an ISA string can have:
checked by `riscv_parse_subset`, and by `riscv_update_subset` for all but the case of vendor names. -/
def ListOp.Ok (st : ParseState) : ListOp → Prop
  | .add subset _ _ => ParsedName subset
  | .update rps str => rps.checkUnknownPrefixedExt = true ∧ str.any isUpper = false
  | .copy _ => st.list.nodes ≠ [] ∧ st.list.archStr ≠ none
  | _ => True

/-- The states that calls lead to from an empty list. -/
inductive Reached : ParseState → Prop
  | start (xlen : Nat) : Reached { xlen }
  | step {st st' : ParseState} {op : ListOp} (h : Reached st) (hok : op.Ok st) (hrun : op.run st = some st') :
      Reached st'

/-- The representation: strictly increasing names, `tail` at the last node and null exactly with `head`, a fast
path that answers as the full scan does, and searches that find what is there. -/
structure Represented (l : SubsetList) : Prop where
  increasing : l.nodes.Pairwise fun a b => riscvCompareSubsets a.name b.name = .lt
  tail : l.tail = l.nodes.getLast?.map (·.name)
  null : l.tail = none ↔ l.nodes = []
  fast : ∀ n, riscvLookupSubset l n = scanSubset n none l.nodes
  search : ∀ n, GoodName n → ((∃ s, riscvLookupSubset l n = .found s) ↔ ∃ s ∈ l.nodes, s.name = n)

/-! ## What every function keeps -/

section Keep

variable {rps : Rps} {st : ParseState} {P : SubsetList → Prop} {Q : Name → Prop}

/-- A property of lists that survives additions of such names and all removals; the names of ISA strings are
such. -/
structure Keeps (P : SubsetList → Prop) (Q : Name → Prop) : Prop where
  nil : P {}
  add : ∀ l n major minor, P l → Q n → P (riscvAddSubset l n major minor)
  remove : ∀ l n, P l → P (riscvRemoveSubset l n)
  parsed : ∀ n, ParsedName n → Q n

theorem Keeps.addSubset (h : Keeps P Q) (hl : P st.list) {n : Name} (hn : Q n) (major minor : Int)
    (implicit : Bool) : P (riscvParseAddSubset rps st n major minor implicit).list := by
  rw [riscvParseAddSubset]
  split
  · split
    · exact hl
    · split <;> exact hl
  · exact h.add _ _ _ _ hl hn

/-- The loop keeps what every addition for a row that fires keeps. -/
theorem implicitLoop_keeps {rows : List ImplicitSubset}
    (hadd : ∀ l, ∀ r ∈ rows, ∀ major minor, r.fires l = true → P l → P (riscvAddSubset l r.implicitName major minor))
    (hl : P st.list) {fuel : Nat} {st' : ParseState} (h : implicitLoop rps rows fuel st = some st') :
    P st'.list := by
  induction fuel generalizing st with
  | zero => cases h
  | succ fuel ih =>
    rw [implicitLoop] at h
    split at h
    · cases h
      exact hl
    · rename_i r hfind
      refine ih ?_ h
      rw [riscvParseAddSubset_implicit]
      exact hadd _ r (List.mem_of_find?_eq_some hfind) _ _ (List.find?_some hfind) hl

theorem riscvParseAddImplicitSubsets_keeps
    (hadd : ∀ l, ∀ r ∈ riscvImplicitSubsets, ∀ major minor, r.fires l = true → P l →
      P (riscvAddSubset l r.implicitName major minor))
    (hl : P st.list) : P (riscvParseAddImplicitSubsets rps st).list := by
  rw [riscvParseAddImplicitSubsets, addImplicitSubsets]
  cases hloop : implicitLoop rps riscvImplicitSubsets (riscvImplicitSubsets.length + 1) st with
  | none => exact hl
  | some st' => exact implicitLoop_keeps hadd hl hloop

/-- Adding what is implied, and the check after it. -/
theorem Keeps.checked (h : Keeps P Q) (hl : P st.list) :
    P (riscvParseCheckConflicts (riscvParseAddImplicitSubsets rps st)).2.list := by
  rw [(riscvParseCheckConflicts_list _).1]
  refine riscvParseAddImplicitSubsets_keeps (fun l r hr major minor _ hl => ?_) hl
  exact h.add _ _ _ _ hl (h.parsed _ (riscvImplicitSubsets_good r hr).2.parsed)

theorem Keeps.tokens (h : Keeps P Q) (hl : P st.list) {ts : List Token} (hts : ∀ t ∈ ts, ParsedName t.name) :
    P (ts.foldl (addToken rps) st).list := by
  induction ts generalizing st with
  | nil => exact hl
  | cons t ts ih =>
    refine ih ?_ fun u hu => hts u (List.mem_cons_of_mem t hu)
    have ht := h.parsed _ (hts t List.mem_cons_self)
    rw [addToken]
    split <;> exact h.addSubset hl ht _ _ _

theorem Keeps.extensions (h : Keeps P Q) (hl : P st.list) {arch p : List Char} (hp : ∀ c ∈ p, isUpper c = false) :
    P (riscvParseExtensions rps arch p st).2.list := by
  have hadded : P ((scanExtensions rps.checkUnknownPrefixedExt arch p.length p).1.foldl (addToken rps) st).list :=
    h.tokens hl fun t ht => (scanExtensions_clean hp t ht).1.parsed
  rw [riscvParseExtensions]
  split
  · dsimp only
    split <;> exact hadded
  · exact hl

/-- Of all extensions only g is one by default. -/
theorem riscvSetDefaultArch_eq (rps : Rps) (st : ParseState) :
    riscvSetDefaultArch rps st = riscvParseAddSubset rps st ['g'] riscvUnknownVersion riscvUnknownVersion true := by
  have hg : riscvAllSupportedExt.filter (·.defaultEnable) =
      [{ ext "g" .none riscvUnknownVersion riscvUnknownVersion with defaultEnable := true }] := by decide +kernel
  rw [riscvSetDefaultArch, hg, List.foldl_cons, List.foldl_nil]
  rfl

theorem Keeps.defaultArch (h : Keeps P Q) (hl : P st.list) : P (riscvSetDefaultArch rps st).list := by
  rw [riscvSetDefaultArch_eq]
  exact h.addSubset hl (h.parsed _ (by decide)) _ _ _

/-- `riscv_parse_subset` keeps it, whether it succeeds or fails. -/
theorem Keeps.parse (h : Keeps P Q) (hl : P st.list) (arch : Option (List Char)) :
    P (riscvParseSubset rps arch st).2.list := by
  unfold riscvParseSubset
  split
  · exact h.checked (h.defaultArch hl)
  · rename_i arch
    split
    · exact hl
    · rename_i hlower
      split
      · split <;> exact hl
      · rename_i xlen p hxlen
        have hp := lower_of_archXlen (Bool.not_eq_true _ ▸ hlower) hxlen
        have hl' : P ({ st with xlen } : ParseState).list := hl
        have hext : P (riscvParseExtensions rps arch p { st with xlen }).2.list := h.extensions hl' hp
        split
        · rename_i st₁ heq
          rwa [heq] at hext
        · rename_i st₁ heq
          rw [heq] at hext
          exact h.checked hext

/-- What `riscv_update_subset` lets through: a letter or a prefixed extension, and no base. -/
structure LetThrough (check : Bool) (p : List Char) (t : Token) (rest : List Char) : Prop where
  name : t.name = updateName p
  rest : rest <:+ p
  nonempty : t.name.length ≠ 0
  letter : t.name.length = 1 → 0 < headOrder t.name
  known : 1 < t.name.length → check = true → riscvRecognizedPrefixedExt t.name = true
  base : t.name ≠ ['i'] ∧ t.name ≠ ['e'] ∧ t.name ≠ ['g']

theorem nextUpdate_letThrough {check : Bool} {str p rest : List Char} {t : Token}
    (h : nextUpdate check str p = .ok (t, rest)) : LetThrough check p t rest := by
  rw [nextUpdate] at h
  dsimp only at h
  split at h
  · cases h
  · split at h
    · cases h
    · rename_i hknown
      split at h
      · cases h
      · rename_i hbase
        cases h
        rw [not_or, not_or, not_and, not_and] at hknown
        rw [not_or, not_or] at hbase
        obtain ⟨hempty, hletter, hprefixed⟩ := hknown
        refine ⟨rfl, (riscvParsingSubsetVersion_suffix _).trans (List.drop_suffix _ _), hempty,
          fun hone => Nat.pos_of_ne_zero (hletter hone), fun hlong hcheck => ?_, hbase⟩
        by_contra hunknown
        exact hprefixed hlong ⟨hcheck, Bool.not_eq_true _ ▸ hunknown⟩

/-- `riscv_update_subset` keeps it if the names it lets through are such. -/
theorem Keeps.update (h : Keeps P Q) (hl : P st.list) {str : List Char} {fuel : Nat} {p : List Char}
    (hname : ∀ q t rest, q <:+ p → nextUpdate rps.checkUnknownPrefixedExt str q = .ok (t, rest) → Q t.name) :
    P (updateLoop rps str fuel p st).2.list := by
  induction fuel generalizing p st with
  | zero => exact hl
  | succ fuel ih =>
    unfold updateLoop
    dsimp only
    split
    · exact h.parse h.nil _
    · rename_i removed q hsigned
      have hq : q <:+ p := by
        split at hsigned
        · cases hsigned
          exact List.suffix_cons _ _
        · cases hsigned
          exact List.suffix_cons _ _
        · cases hsigned
      split
      · exact hl
      · rename_i t rest heq
        have hst : P (if removed then { st with list := riscvRemoveSubset st.list t.name }
            else riscvParseAddSubset rps st t.name t.major t.minor true).list := by
          split
          · exact h.remove _ _ hl
          · exact h.addSubset hl (hname q t rest hq heq) _ _ _
        have hrest : rest <:+ p := (nextUpdate_letThrough heq).rest.trans hq
        split
        · exact ih hst fun q' t' rest' hq' => hname q' t' rest' (hq'.trans ((List.suffix_cons _ _).trans hrest))
        · exact h.checked hst

end Keep

/-! ## The invariant is kept -/

section Parsed

theorem SubsetList.Parsed.remove {l : SubsetList} (hl : l.Parsed) (n : Name) : (riscvRemoveSubset l n).Parsed := by
  refine ⟨riscvRemoveSubset_wf hl.toWf n, ?_⟩
  rw [riscvRemoveSubset]
  split
  · exact hl.names
  · rename_i s next hdrop
    intro t ht
    apply hl.names
    rw [← List.takeWhile_append_dropWhile (p := (·.name ≠ n)) (l := l.nodes), hdrop]
    rcases List.mem_append.mp ht with ht | ht
    · exact List.mem_append_left _ ht
    · exact List.mem_append_right _ (List.mem_cons_of_mem s ht)

theorem class_ne_single_of_recognized {n : Name} (h : riscvRecognizedPrefixedExt n = true) :
    riscvGetPrefixClass n ≠ .single := by
  intro hsingle
  rw [riscvRecognizedPrefixedExt, hsingle] at h
  cases h

/-- The z extensions of the table have a letter of the canonical order behind the z. -/
theorem second_of_recognized {n : Name} (h : riscvRecognizedPrefixedExt n = true) (hz : riscvGetPrefixClass n = .z) :
    0 < headOrder (n.drop 1) := by
  have htable : ∀ e ∈ riscvSupportedStdZExt, 0 < headOrder (e.name.drop 1) := by decide +kernel
  rw [riscvRecognizedPrefixedExt, hz] at h
  obtain ⟨e, he, hname⟩ := List.any_eq_true.mp h
  rw [← of_decide_eq_true hname]
  exact htable e he

theorem LetThrough.parsed {p rest : List Char} {t : Token} (h : LetThrough true p t rest)
    (hp : ∀ c ∈ p, isUpper c = false) : ParsedName t.name := by
  have hempty := h.nonempty
  by_cases hone : t.name.length = 1
  · exact .inl ⟨hone, h.letter hone⟩
  · refine .inr ⟨class_ne_single_of_recognized (h.known (by omega) rfl), fun c hc => hp c ?_⟩
    rw [h.name] at hc
    exact List.mem_of_mem_take hc

theorem parsed_keeps : Keeps SubsetList.Parsed ParsedName where
  nil := .nil
  add _ _ _ _ hl hn := hl.add hn _ _
  remove _ n hl := hl.remove n
  parsed _ hn := hn

end Parsed

/-! ## Runs keep the invariant -/

section Run

variable {st : ParseState}

/-- A copy that meets its condition does not crash. -/
theorem riscvCopySubsetList_some {l : SubsetList} (harch : l.archStr ≠ none) (junk : Option Name) :
    riscvCopySubsetList junk l = some (copiedSubsetList junk l) := if_neg harch

/-- Every call that meets its condition comes to an end. -/
theorem ListOp.run_defined {op : ListOp} (hok : op.Ok st) : ∃ st', op.run st = some st' := by
  cases op with
  | copy junk =>
    rw [ListOp.run, riscvCopySubsetList_some hok.2]
    exact ⟨_, rfl⟩
  | _ => exact ⟨_, rfl⟩

/-- Every call that meets its condition keeps the invariant. -/
theorem ListOp.run_parsed (hl : st.list.Parsed) {op : ListOp} (hok : op.Ok st) {st' : ParseState}
    (hrun : op.run st = some st') : st'.list.Parsed := by
  cases op with
  | add subset major minor =>
    cases hrun
    exact hl.add hok major minor
  | remove subset =>
    cases hrun
    exact hl.remove subset
  | parse rps arch =>
    cases hrun
    exact parsed_keeps.parse hl arch
  | update rps str =>
    cases hrun
    refine parsed_keeps.update hl fun q t rest hq hnext => ?_
    refine (nextUpdate_letThrough (hok.1 ▸ hnext)).parsed fun c hc => ?_
    exact Bool.not_eq_true _ ▸ List.any_eq_false.mp hok.2 c (hq.subset hc)
  | setArchStr archStr =>
    cases hrun
    exact ⟨⟨hl.ordered, hl.tail⟩, hl.names⟩
  | copy junk =>
    rw [ListOp.run, riscvCopySubsetList_some hok.2] at hrun
    cases hrun
    exact ⟨copiedSubsetList_wf hl.toWf hok.1 junk, hl.names⟩
  | release =>
    cases hrun
    exact .nil

theorem Reached.parsed (h : Reached st) : st.list.Parsed := by
  induction h with
  | start xlen => exact .nil
  | step _ hok hrun ih => exact ListOp.run_parsed ih hok hrun

theorem SubsetList.Parsed.represented {l : SubsetList} (hl : l.Parsed) : Represented l where
  increasing := hl.ordered
  tail := hl.tail
  null := by
    rw [hl.tail, Option.map_eq_none_iff, List.getLast?_eq_none_iff]
  fast := riscvLookupSubset_eq_scan hl.toWf
  search := by
    intro n hn
    rw [← hl.supports_iff hn, SubsetList.supports, SubsetList.find]
    cases riscvLookupSubset l n with
    | found s => simp
    | after c => simp

/-- The representation holds in every state reached by calls that meet their conditions, and no such call crashes. -/
theorem reached_represented (h : Reached st) :
    Represented st.list ∧ ∀ op : ListOp, op.Ok st → ∃ st', op.run st = some st' :=
  ⟨h.parsed.represented, fun _ => ListOp.run_defined⟩

/-- A list that an ISA string without a width has emptied is copied: the copy has whatever was in memory for its
`tail`.  Without the string that the assembler sets again, the copy crashes. -/
theorem copy_empty_not_represented :
    (∃ st', runOps [.parse ⟨some .c20191213, true⟩ (some "rv64i".toList), .setArchStr "rv64i2p1".toList,
        .update ⟨some .c20191213, true⟩ "rv".toList, .setArchStr "rv64".toList, .copy (some ['m'])] {} = some st' ∧
      ¬Represented st'.list) ∧
    runOps [.parse ⟨some .c20191213, true⟩ (some "rv64i".toList), .copy none] {} = none := by
  have hrun : (runOps [.parse ⟨some .c20191213, true⟩ (some "rv64i".toList), .setArchStr "rv64i2p1".toList,
      .update ⟨some .c20191213, true⟩ "rv".toList, .setArchStr "rv64".toList, .copy (some ['m'])] {}).map (·.list) =
      some ⟨[], some ['m'], some "rv64".toList⟩ := by decide +kernel
  obtain ⟨st', hst', hlist⟩ := Option.map_eq_some_iff.mp hrun
  refine ⟨⟨st', hst', fun h => ?_⟩, by decide +kernel⟩
  have htail := h.tail
  rw [hlist] at htail
  cases htail

/-- A copy of a parsed list, with an extension removed. -/
theorem copy_parsed_represented : ∃ st, runOps [.parse ⟨none, false⟩ (some "rv64i2p0".toList),
    .setArchStr "rv64i2p0".toList, .copy none, .remove "zicsr".toList] {} = some st ∧ Represented st.list := by
  have hparse : Reached (riscvParseSubset ⟨none, false⟩ (some "rv64i2p0".toList) {}).2 :=
    @Reached.step _ _ (.parse _ _) (.start 0) trivial rfl
  have hset := @Reached.step _ _ (.setArchStr "rv64i2p0".toList) hparse trivial rfl
  have hne : (riscvParseSubset ⟨none, false⟩ (some "rv64i2p0".toList) {}).2.list.nodes ≠ [] := by decide +kernel
  have hcopy := @Reached.step _ _ (.copy none) hset ⟨hne, Option.some_ne_none _⟩ rfl
  have hremove := @Reached.step _ _ (.remove "zicsr".toList) hcopy trivial rfl
  exact ⟨_, rfl, (reached_represented hremove).1⟩

end Run

end RiscvBinutils.Isa
