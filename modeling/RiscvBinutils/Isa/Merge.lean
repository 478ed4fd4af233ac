/-
Merging architecture attributes in the linker (bfd/elfnn-riscv.c, `riscv_merge_arch_attr_info` and what it
calls).  The three lists are static: a call starts with what the one before it has left.
-/
import RiscvBinutils.Isa.Render

namespace RiscvBinutils.Isa

open Std RiscvBinutils.Base

/-! ## The code -/

/-- What `_bfd_error_handler` is called with. -/
inductive MergeError
  | parse (e : ParseError)
  /-- "corrupted ISA string '%s'.  First letter should be 'i' or 'e' but got '%s'". -/
  | corrupted (arch : List Char) (name : Name)
  /-- "mis-matched ISA string to merge '%s' and '%s'". -/
  | mismatched (inName outName : Name)
  /-- "ISA string of input (%s) doesn't match output (%s)". -/
  | isaString (inArch outArch : List Char)
  /-- "unsupported XLEN (%u), you might be using wrong emulation". -/
  | emulation (xlen : Nat)
  deriving DecidableEq, Repr

/-- `in_subsets`, `out_subsets` and `merged_subsets`. -/
structure MergeState where
  inSubsets : SubsetList := {}
  outSubsets : SubsetList := {}
  mergedSubsets : SubsetList := {}
  deriving DecidableEq, Repr

/-- The pointer returned; `crash` if a null pointer is read. -/
inductive MergeResult
  | crash
  | null
  | arch (s : List Char)
  deriving DecidableEq, Repr

/-- What a call shows to its caller and to the user. -/
structure MergeOutcome where
  result : MergeResult
  errors : List MergeError := []
  deriving DecidableEq, Repr

/-- `riscv_std_ext_p`. -/
def riscvStdExtP (name : Name) : Bool := name.length = 1 ∧ name.head? ≠ some 'x' ∧ name.head? ≠ some 's'

/-- `riscv_update_subset_version`: the node `out` after it. -/
def riscvUpdateSubsetVersion (s out : Subset) : Subset :=
  if out.major < s.major ∨ (s.major = out.major ∧ out.minor < s.minor) ∨ out.major = riscvUnknownVersion then
    { out with major := s.major, minor := s.minor }
  else out

/-- Write to the node of a list. -/
def SubsetList.write (l : SubsetList) (s : Subset) : SubsetList :=
  { l with nodes := l.nodes.map fun t => if t.name = s.name then s else t }

/-- `riscv_add_subset (&merged_subsets, …)` with the fields of a node. -/
def MergeState.addMerged (st : MergeState) (s : Subset) : MergeState :=
  { st with mergedSubsets := riscvAddSubset st.mergedSubsets s.name s.major s.minor }

/-- Update the node `out` from `s`, and merge it. -/
def MergeState.mergeBoth (st : MergeState) (s out : Subset) : MergeState :=
  let out := riscvUpdateSubsetVersion s out
  { st with outSubsets := st.outSubsets.write out }.addMerged out

/-- `riscv_i_or_e_p`. -/
def riscvIOrEP (subset : Subset) : Bool := strcasecmp subset.name ['e'] = .eq ∨ strcasecmp subset.name ['i'] = .eq

/-- `standard_exts`. -/
def standardExts : List Char := "mafdqlcbjtpvnh".toList

/-- One round of the loop over the standard extensions. -/
def mergeStdLetter (st : MergeState) (c : Char) : MergeState :=
  match st.inSubsets.find [c], st.outSubsets.find [c] with
  | none, none => st
  | some s, some out => st.mergeBoth s out
  | none, some out => st.addMerged out
  | some s, none => st.addMerged s

/-- `riscv_merge_std_ext`; without an error it reads a null pointer.  The lists are as before unless it
succeeds. -/
def riscvMergeStdExt (inArch outArch : List Char) (st : MergeState) : Except (Option MergeError) MergeState :=
  match st.inSubsets.nodes, st.outSubsets.nodes with
  | [], _ => .error none
  | s :: _, [] => .error (if riscvIOrEP s then none else some (.corrupted inArch s.name))
  | s :: _, out :: _ =>
    if riscvIOrEP s = false then .error (some (.corrupted inArch s.name))
    else if riscvIOrEP out = false then .error (some (.corrupted outArch out.name))
    else if strcasecmp s.name out.name ≠ .eq then .error (some (.mismatched s.name out.name))
    else .ok (standardExts.foldl mergeStdLetter (st.mergeBoth s out))

/-- The loops of `riscv_merge_multi_letter_ext` over the rests of the two lists; every round reads a node. -/
def riscvMergeMultiLetterExt : (fuel : Nat) → (rest outRest : List Subset) → MergeState → MergeState
  | 0, _, _, st => st
  | fuel + 1, s :: rest, out :: outRest, st =>
    match riscvCompareSubsets s.name out.name with
    | .lt => riscvMergeMultiLetterExt fuel rest (out :: outRest) (st.addMerged s)
    | .gt => riscvMergeMultiLetterExt fuel (s :: rest) outRest (st.addMerged out)
    | .eq => riscvMergeMultiLetterExt fuel rest outRest (st.mergeBoth s out)
  | _ + 1, rest, [], st => rest.foldl MergeState.addMerged st
  | _ + 1, [], outRest, st => outRest.foldl MergeState.addMerged st

/-- The nodes after the standard extensions. -/
def SubsetList.multi (l : SubsetList) : List Subset := l.nodes.tail.dropWhile (riscvStdExtP ·.name)

/-- `riscv_rps_ld_in` and `riscv_rps_ld_out`. -/
def riscvRpsLd : Rps := ⟨none, false⟩

/-- `riscv_merge_arch_attr_info` from the point where both strings are parsed.  The two XLENs are compared
again after the merge, which cannot fail. -/
def mergeParsed (archSize : Nat) (inArch outArch : List Char) (xlenIn xlenOut : Nat) (st : MergeState) :
    MergeResult × List MergeError × MergeState :=
  if xlenOut ≠ xlenIn then (.null, [.isaString inArch outArch], st)
  else
    match riscvMergeStdExt inArch outArch st with
    | .error none => (.crash, [], st)
    | .error (some e) => (.null, [e], st)
    | .ok st =>
      let st := riscvMergeMultiLetterExt (st.inSubsets.multi.length + st.outSubsets.multi.length + 1)
        st.inSubsets.multi st.outSubsets.multi st
      if xlenIn ≠ archSize then (.null, [.emulation xlenIn], st)
      else (.arch (riscvArchStr archSize st.mergedSubsets), [], {})

/-- `riscv_merge_arch_attr_info`, where `archSize` is `ARCH_SIZE` and `none` a null pointer. -/
def riscvMergeArchAttrInfo (archSize : Nat) (inArch outArch : Option (List Char)) (st : MergeState) :
    MergeOutcome × MergeState :=
  let st := { st with mergedSubsets := { st.mergedSubsets with nodes := [], tail := none } }
  match inArch, outArch with
  | none, none => (⟨.null, []⟩, st)
  | none, some outArch => (⟨.arch outArch, []⟩, st)
  | some inArch, none => (⟨.arch inArch, []⟩, st)
  | some inArch, some outArch =>
    let parsedIn := riscvParseSubset riscvRpsLd (some inArch) { list := st.inSubsets }
    let st := { st with inSubsets := parsedIn.2.list }
    let errors := parsedIn.2.errors.map .parse
    if parsedIn.1 = false then (⟨.null, errors⟩, st)
    else
      let parsedOut := riscvParseSubset riscvRpsLd (some outArch) { list := st.outSubsets }
      let st := { st with outSubsets := parsedOut.2.list }
      let errors := errors ++ parsedOut.2.errors.map .parse
      if parsedOut.1 = false then (⟨.null, errors⟩, st)
      else
        let r := mergeParsed archSize inArch outArch parsedIn.2.xlen parsedOut.2.xlen st
        (⟨r.1, errors ++ r.2.1⟩, r.2.2)

/-! ## What a call leaves -/

section Calls

variable {archSize : Nat} {st : MergeState}

/-- The arguments of a call. -/
structure MergeCall where
  inArch : Option (List Char)
  outArch : Option (List Char)
  deriving DecidableEq, Repr

/-- The lists after some calls; `none` once the program has crashed. -/
def mergeCalls (archSize : Nat) : List MergeCall → MergeState → Option MergeState
  | [], st => some st
  | c :: calls, st =>
    let r := riscvMergeArchAttrInfo archSize c.inArch c.outArch st
    if r.1.result = .crash then none else mergeCalls archSize calls r.2

/-- What the linker finds in an ISA string when its lists are empty. -/
def ldParse (arch : List Char) : Bool × ParseState := riscvParseSubset riscvRpsLd (some arch) {}

/-- Both lists start with the same base. -/
def SameBase (l l' : SubsetList) : Prop :=
  ∃ s ∈ l.nodes.head?, ∃ s' ∈ l'.nodes.head?, (s.name = ['e'] ∨ s.name = ['i']) ∧ s'.name = s.name

instance (l l' : SubsetList) : Decidable (SameBase l l') :=
  inferInstanceAs (Decidable (∃ s ∈ l.nodes.head?, ∃ s' ∈ l'.nodes.head?, _))

/-- The strings can be merged: both are accepted, for this emulation and with the same base. -/
structure Merges (archSize : Nat) (inArch outArch : List Char) : Prop where
  acceptedIn : (ldParse inArch).1 = true
  acceptedOut : (ldParse outArch).1 = true
  xlenIn : (ldParse inArch).2.xlen = archSize
  xlenOut : (ldParse outArch).2.xlen = archSize
  base : SameBase (ldParse inArch).2.list (ldParse outArch).2.list

/-- A call after which nothing is left to release: a null pointer, strings that can be merged, or strings from
which nothing was recorded. -/
def Tidy (archSize : Nat) (c : MergeCall) : Prop :=
  ∀ inArch ∈ c.inArch, ∀ outArch ∈ c.outArch, Merges archSize inArch outArch ∨
    ((ldParse inArch).2.list = {} ∧ ((ldParse inArch).1 = false ∨ (ldParse outArch).2.list = {}))

/-- No list is left. -/
structure Released (st : MergeState) : Prop where
  inSubsets : st.inSubsets = {}
  outSubsets : st.outSubsets = {}
  archStr : st.mergedSubsets.archStr = none

/-- A call that finds no list behaves like the first one. -/
theorem Released.eq_first (h : Released st) (inArch outArch : Option (List Char)) :
    riscvMergeArchAttrInfo archSize inArch outArch st = riscvMergeArchAttrInfo archSize inArch outArch {} := by
  obtain ⟨inSubsets, outSubsets, ⟨nodes, tail, archStr⟩⟩ := st
  cases h.inSubsets
  cases h.outSubsets
  cases h.archStr
  rfl

theorem riscvMergeArchAttrInfo_some (inArch outArch : List Char) :
    riscvMergeArchAttrInfo archSize (some inArch) (some outArch) {} =
      let errors := (ldParse inArch).2.errors.map MergeError.parse
      let errors' := errors ++ (ldParse outArch).2.errors.map MergeError.parse
      if (ldParse inArch).1 = false then (⟨.null, errors⟩, { inSubsets := (ldParse inArch).2.list })
      else if (ldParse outArch).1 = false then
        (⟨.null, errors'⟩, { inSubsets := (ldParse inArch).2.list, outSubsets := (ldParse outArch).2.list })
      else
        let r := mergeParsed archSize inArch outArch (ldParse inArch).2.xlen (ldParse outArch).2.xlen
          { inSubsets := (ldParse inArch).2.list, outSubsets := (ldParse outArch).2.list }
        (⟨r.1, errors' ++ r.2.1⟩, r.2.2) := rfl

theorem riscvIOrEP_of_base {s : Subset} (h : s.name = ['e'] ∨ s.name = ['i']) : riscvIOrEP s = true := by
  unfold riscvIOrEP
  rcases h with h | h <;> rw [h] <;> decide

/-- With the same base the standard extensions are merged. -/
theorem riscvMergeStdExt_of_sameBase {inArch outArch : List Char} (h : SameBase st.inSubsets st.outSubsets) :
    ∃ s ∈ st.inSubsets.nodes.head?, ∃ s' ∈ st.outSubsets.nodes.head?,
      (s.name = ['e'] ∨ s.name = ['i']) ∧ s'.name = s.name ∧
      riscvMergeStdExt inArch outArch st = .ok (standardExts.foldl mergeStdLetter (st.mergeBoth s s')) := by
  obtain ⟨s, hs, s', hs', hbase, hname⟩ := h
  refine ⟨s, hs, s', hs', hbase, hname, ?_⟩
  obtain ⟨rest, hrest⟩ := List.head?_eq_some_iff.mp hs
  obtain ⟨rest', hrest'⟩ := List.head?_eq_some_iff.mp hs'
  have hself : strcasecmp s.name s'.name = .eq := by
    rw [hname]
    rcases hbase with h | h <;> rw [h] <;> decide
  rw [riscvMergeStdExt, hrest, hrest']
  dsimp only
  rw [if_neg (by rw [riscvIOrEP_of_base hbase]; decide),
    if_neg (by rw [riscvIOrEP_of_base (hname.symm ▸ hbase)]; decide), if_neg (not_not_intro hself)]

/-- A merge ends with no list. -/
theorem Merges.released {inArch outArch : List Char} (h : Merges archSize inArch outArch) :
    (riscvMergeArchAttrInfo archSize (some inArch) (some outArch) {}).2 = {} := by
  rw [riscvMergeArchAttrInfo_some]
  dsimp only
  rw [h.acceptedIn, if_neg (by decide), h.acceptedOut, if_neg (by decide)]
  obtain ⟨s, -, s', -, -, -, hstd⟩ := @riscvMergeStdExt_of_sameBase
    { inSubsets := (ldParse inArch).2.list, outSubsets := (ldParse outArch).2.list } inArch outArch h.base
  rw [mergeParsed, h.xlenIn, h.xlenOut, if_neg (not_not_intro rfl), hstd]
  dsimp only
  rw [if_neg (not_not_intro rfl)]

/-- A tidy call keeps the lists empty. -/
theorem Tidy.released {c : MergeCall} (hc : Tidy archSize c) (h : Released st) :
    Released (riscvMergeArchAttrInfo archSize c.inArch c.outArch st).2 := by
  rw [h.eq_first]
  obtain ⟨inArch, outArch⟩ := c
  cases inArch with
  | none => cases outArch <;> exact ⟨rfl, rfl, rfl⟩
  | some inArch =>
    cases outArch with
    | none => exact ⟨rfl, rfl, rfl⟩
    | some outArch =>
      rcases hc inArch rfl outArch rfl with hmerges | ⟨hin, hout⟩
      · rw [hmerges.released]
        exact ⟨rfl, rfl, rfl⟩
      · rw [riscvMergeArchAttrInfo_some]
        dsimp only
        rw [hin]
        split
        · exact ⟨rfl, rfl, rfl⟩
        · rename_i haccepted
          have hempty := hout.resolve_left haccepted
          rw [hempty]
          split
          · exact ⟨rfl, rfl, rfl⟩
          · rw [mergeParsed]
            split <;> exact ⟨rfl, rfl, rfl⟩

theorem mergeCalls_released {calls : List MergeCall} (hcalls : ∀ c ∈ calls, Tidy archSize c) {st' : MergeState}
    (h : Released st) (hrun : mergeCalls archSize calls st = some st') : Released st' := by
  induction calls generalizing st with
  | nil =>
    cases hrun
    exact h
  | cons c calls ih =>
    rw [mergeCalls] at hrun
    split at hrun
    · cases hrun
    · refine ih (fun d hd => hcalls d (List.mem_cons_of_mem c hd)) ?_ hrun
      exact (hcalls c List.mem_cons_self).released h

/-- After tidy calls every call has the outcome it would have as the first one. -/
theorem mergeCalls_first (archSize : Nat) (calls : List MergeCall) (st : MergeState)
    (hcalls : ∀ c ∈ calls, Tidy archSize c) (hrun : mergeCalls archSize calls {} = some st)
    (inArch outArch : Option (List Char)) :
    (riscvMergeArchAttrInfo archSize inArch outArch st).1 = (riscvMergeArchAttrInfo archSize inArch outArch {}).1 := by
  have h : Released st := mergeCalls_released hcalls ⟨rfl, rfl, rfl⟩ hrun
  rw [h.eq_first]

/-- A merge, and the same merge again. -/
theorem mergeCalls_first_again : ∃ st,
    mergeCalls 64 [⟨some "rv64i2p1_m2p0".toList, some "rv64i2p1".toList⟩] {} = some st ∧
      (riscvMergeArchAttrInfo 64 (some "rv64i2p1".toList) (some "rv64i2p1".toList) st).1 =
        (riscvMergeArchAttrInfo 64 (some "rv64i2p1".toList) (some "rv64i2p1".toList) {}).1 := by
  -- one evaluation, so that each string is read once
  obtain ⟨hrun, hin, hout, hxin, hxout, hbase⟩ :
      mergeCalls 64 [⟨some "rv64i2p1_m2p0".toList, some "rv64i2p1".toList⟩] {} = some {} ∧
      (ldParse "rv64i2p1_m2p0".toList).1 = true ∧ (ldParse "rv64i2p1".toList).1 = true ∧
      (ldParse "rv64i2p1_m2p0".toList).2.xlen = 64 ∧ (ldParse "rv64i2p1".toList).2.xlen = 64 ∧
      SameBase (ldParse "rv64i2p1_m2p0".toList).2.list (ldParse "rv64i2p1".toList).2.list := by
    decide +kernel
  refine ⟨{}, hrun, mergeCalls_first 64 _ {} ?_ hrun _ _⟩
  intro c hc
  rw [List.mem_singleton.mp hc]
  rintro _ ⟨⟩ _ ⟨⟩
  exact .inl ⟨hin, hout, hxin, hxout, hbase⟩

/-- A mismatch leaves its lists behind: the next call finds the m of the one before. -/
theorem mismatch_leaves_m :
    (mergeCalls 64 [⟨some "rv64i2p1_m2p0".toList, some "rv32i2p1".toList⟩] {}).map (fun st =>
        (riscvMergeArchAttrInfo 64 (some "rv64i2p1".toList) (some "rv64i2p1".toList) st).1.result) =
        some (.arch "rv64i2p1_m2p0".toList) ∧
      (riscvMergeArchAttrInfo 64 (some "rv64i2p1".toList) (some "rv64i2p1".toList) {}).1.result =
        .arch "rv64i2p1".toList := by
  decide +kernel

end Calls

end RiscvBinutils.Isa
