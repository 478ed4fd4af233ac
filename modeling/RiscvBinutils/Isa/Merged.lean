/-
What a merge of two architecture attributes computes (bfd/elfnn-riscv.c, `riscv_merge_std_ext` and
`riscv_merge_multi_letter_ext`): the entries of the merged list, and what is read back from its string.
-/
import RiscvBinutils.Isa.Merge

namespace RiscvBinutils.Isa

open Std RiscvBinutils.Base

/-! ## Standard extensions -/

section Standard

/-- The names that `riscv_std_ext_p` takes for standard ones: the canonical letters and z. -/
theorem riscvStdExtP_iff {n : Name} (hn : ParsedName n) : riscvStdExtP n = true ↔ 0 < headOrder n ∨ n = ['z'] := by
  unfold riscvStdExtP
  rw [decide_eq_true_iff]
  constructor
  · rintro ⟨hlen, hx, hs⟩
    rcases hn with h | h
    · exact .inl h.2
    · obtain ⟨c, rfl⟩ := List.length_eq_one_iff.mp hlen
      right
      have hclass := h.1
      rw [class_cons] at hclass
      by_cases hz : c = 'z'
      · rw [hz]
      · rw [if_neg hz, if_neg fun hc => hs (by rw [hc]; rfl), if_neg fun hc => hx (by rw [hc]; rfl)] at hclass
        exact absurd rfl hclass
  · rintro (h | rfl)
    · refine ⟨hn.length_eq_one h, ?_, ?_⟩
      all_goals
        intro hhead
        obtain ⟨q, rfl⟩ := List.head?_eq_some_iff.mp hhead
        exact absurd h (by change ¬0 < riscvExtOrder _; decide)
    · decide

/-- Only letters come before z. -/
theorem headOrder_pos_of_lt_z {n : Name} (hn : ParsedName n) (h : riscvCompareSubsets n ['z'] = .lt) :
    0 < headOrder n := by
  by_contra hzero
  obtain ⟨hclass, -⟩ := hn.prefixed hzero
  have hrank : rank n = (riscvGetPrefixClass n).order % 5 + 1 := if_neg hzero
  have hz : rank ['z'] = 2 ∧ subrank ['z'] = 0 ∧ suffixKey ['z'] = [] := by decide
  rw [riscvCompareSubsets_eq, compareLex, compareOn, hz.1, compareLex, compareOn, compareOn, hz.2.1, hz.2.2] at h
  have hle : 2 ≤ rank n := by
    rw [hrank]
    revert hclass
    cases riscvGetPrefixClass n <;> decide
  rcases Ordering.then_eq_lt.mp h with hlt | ⟨-, hlt⟩
  · have := Nat.compare_eq_lt.mp hlt
    omega
  · rcases Ordering.then_eq_lt.mp hlt with hlt | ⟨-, hlt⟩
    · exact absurd (Nat.compare_eq_lt.mp hlt) (Nat.not_lt_zero _)
    · cases hkey : suffixKey n with
      | nil =>
        rw [hkey] at hlt
        cases hlt
      | cons c cs =>
        rw [hkey] at hlt
        cases hlt

variable {l : SubsetList}

/-- What follows the standard extensions. -/
theorem SubsetList.Parsed.multi_eq (hl : l.Parsed) :
    l.multi = l.nodes.tail.filter fun t => !riscvStdExtP t.name := by
  have hmem : ∀ t ∈ l.nodes.tail, ParsedName t.name := fun t ht => hl.names t (List.mem_of_mem_tail ht)
  refine (hl.ordered.sublist (List.tail_sublist _)).dropWhile_eq_filter fun a ha b hb hlt hstd => ?_
  refine (riscvStdExtP_iff (hmem a ha)).mpr (.inl ?_)
  rcases (riscvStdExtP_iff (hmem b hb)).mp hstd with h | h
  · exact (headOrder_lt_of_lt h hlt).1
  · rw [h] at hlt
    exact headOrder_pos_of_lt_z (hmem a ha) hlt

end Standard

/-! ## The merged list -/

section Merged

variable {l : SubsetList} {st : MergeState}

/-- What is merged of two entries with the same name. -/
def mergeEntry : Option Subset → Option Subset → Option Subset
  | some s, some out => some (riscvUpdateSubsetVersion s out)
  | s, out => s.or out

theorem riscvUpdateSubsetVersion_name (s out : Subset) : (riscvUpdateSubsetVersion s out).name = out.name := by
  unfold riscvUpdateSubsetVersion
  split <;> rfl

theorem write_name (s t : Subset) : (if t.name = s.name then s else t).name = t.name := by
  split
  · rename_i h
    exact h.symm
  · rfl

theorem entry_write (s : Subset) (k : Name) (nodes : List Subset) :
    entry k (nodes.map fun t => if t.name = s.name then s else t) =
      (entry k nodes).map fun t => if t.name = s.name then s else t := by
  unfold entry findKey
  rw [List.find?_map]
  simp only [Function.comp_def, write_name]

theorem SubsetList.Wf.write (hl : l.Wf) (s : Subset) : (l.write s).Wf := by
  refine ⟨?_, ?_⟩
  · refine List.pairwise_map.mpr (hl.ordered.imp fun {a b} hab => ?_)
    rw [write_name, write_name]
    exact hab
  · have hlast : (l.write s).nodes.getLast? = l.nodes.getLast?.map fun t => if t.name = s.name then s else t :=
      List.getLast?_map
    have htail : (l.write s).tail = l.tail := rfl
    rw [hlast, htail, hl.tail, Option.map_map]
    simp only [Function.comp_def, write_name]

/-- A write leaves all names as they are. -/
theorem exists_of_mem_write {s t : Subset} (ht : t ∈ (l.write s).nodes) : ∃ u ∈ l.nodes, u.name = t.name := by
  obtain ⟨u, hu, rfl⟩ := List.mem_map.mp ht
  exact ⟨u, hu, (write_name s u).symm⟩

theorem SubsetList.Parsed.write (hl : l.Parsed) (s : Subset) : (l.write s).Parsed := by
  refine ⟨hl.toWf.write s, fun t ht => ?_⟩
  obtain ⟨u, hu, hname⟩ := exists_of_mem_write ht
  exact hname ▸ hl.names u hu

/-- A write to a standard extension leaves the others alone. -/
theorem SubsetList.Parsed.multi_write (hl : l.Parsed) {s : Subset} (hs : riscvStdExtP s.name = true) :
    (l.write s).multi = l.multi := by
  have hmap : (l.write s).multi = l.multi.map fun t => if t.name = s.name then s else t := by
    have htail : (l.write s).nodes.tail = l.nodes.tail.map fun t => if t.name = s.name then s else t :=
      List.map_tail.symm
    rw [SubsetList.multi, htail, List.dropWhile_map]
    simp only [Function.comp_def, write_name]
    rfl
  rw [hmap, hl.multi_eq]
  refine (List.map_congr_left fun t ht => ?_).trans (List.map_id _)
  have hnot := (List.mem_filter.mp ht).2
  refine if_neg fun hname => ?_
  rw [hname, hs] at hnot
  cases hnot

/-- What merging one standard extension does: `w` is added to the merged list, and only the node of `n` is
written. -/
structure MergeStep (n : Name) (w : Option Subset) (st st' : MergeState) : Prop where
  inSubsets : st'.inSubsets = st.inSubsets
  out : st'.outSubsets.Parsed
  merged : st'.mergedSubsets.Parsed
  multi : st'.outSubsets.multi = st.outSubsets.multi
  other : ∀ k, riscvCompareSubsets n k ≠ .eq → entry k st'.outSubsets.nodes = entry k st.outSubsets.nodes
  entry : ∀ k, entry k st'.mergedSubsets.nodes = (entry k st.mergedSubsets.nodes).or (entry k w.toList)

theorem entry_singleton (k : Name) (s : Subset) :
    entry k [s] = if riscvCompareSubsets s.name k = .eq then some s else none := by
  rw [entry_cons]
  rfl

theorem entry_addMerged (hm : st.mergedSubsets.Wf) (s : Subset) (k : Name) :
    entry k (st.addMerged s).mergedSubsets.nodes = (entry k st.mergedSubsets.nodes).or (entry k [s]) := by
  rw [entry_singleton]
  exact entry_add hm s.name k s.major s.minor

theorem addMerged_step (n : Name) (hout : st.outSubsets.Parsed) (hm : st.mergedSubsets.Parsed) {s : Subset}
    (hs : ParsedName s.name) : MergeStep n (some s) st (st.addMerged s) :=
  ⟨rfl, hout, hm.add hs _ _, rfl, fun _ _ => rfl, entry_addMerged hm.toWf s⟩

theorem mergeBoth_step (hout : st.outSubsets.Parsed) (hm : st.mergedSubsets.Parsed) {out : Subset}
    (hmem : out ∈ st.outSubsets.nodes) (hstd : riscvStdExtP out.name = true) (s : Subset) :
    MergeStep out.name (some (riscvUpdateSubsetVersion s out)) st (st.mergeBoth s out) := by
  have hname := riscvUpdateSubsetVersion_name s out
  refine ⟨rfl, hout.write _, hm.add ?_ _ _, hout.multi_write (hname ▸ hstd), ?_, ?_⟩
  · rw [hname]
    exact hout.names out hmem
  · intro k hk
    have hwrite : entry k (st.outSubsets.write (riscvUpdateSubsetVersion s out)).nodes = _ := entry_write _ _ _
    refine hwrite.trans ?_
    cases hentry : Isa.entry k st.outSubsets.nodes with
    | none => rfl
    | some t =>
      rw [Option.map_some, if_neg]
      intro hsame
      rw [hname] at hsame
      exact hk (hsame ▸ entry_compare hentry)
  · exact entry_addMerged hm.toWf _

theorem goodName_letter {c : Char} (hc : riscvExtOrder c ≠ 0) : GoodName [c] := by
  have horder : 0 < headOrder [c] := Nat.pos_of_ne_zero hc
  refine ⟨.inl ⟨rfl, horder⟩, fun hclass => ?_⟩
  rw [class_eq_single_of_headOrder horder] at hclass
  cases hclass

theorem mergeStdLetter_step (hin : st.inSubsets.Parsed) (hout : st.outSubsets.Parsed) (hm : st.mergedSubsets.Parsed)
    {c : Char} (hc : riscvExtOrder c ≠ 0) :
    MergeStep [c] (mergeEntry (st.inSubsets.find [c]) (st.outSubsets.find [c])) st (mergeStdLetter st c) := by
  have hgood := goodName_letter hc
  have hstd : riscvStdExtP [c] = true :=
    (riscvStdExtP_iff hgood.parsed).mpr (.inl (Nat.pos_of_ne_zero hc))
  unfold mergeStdLetter
  cases hfin : st.inSubsets.find [c] with
  | none =>
    cases hfout : st.outSubsets.find [c] with
    | none =>
      refine ⟨rfl, hout, hm, rfl, fun _ _ => rfl, fun k => ?_⟩
      exact (Option.or_none).symm
    | some out =>
      obtain ⟨hmem, -⟩ := (hout.find_eq_some_iff hgood out).mp hfout
      exact addMerged_step [c] hout hm (hout.names out hmem)
  | some s =>
    obtain ⟨hsmem, -⟩ := (hin.find_eq_some_iff hgood s).mp hfin
    cases hfout : st.outSubsets.find [c] with
    | none => exact addMerged_step [c] hout hm (hin.names s hsmem)
    | some out =>
      obtain ⟨hmem, hname⟩ := (hout.find_eq_some_iff hgood out).mp hfout
      have hstep := mergeBoth_step hout hm hmem (hname ▸ hstd) s
      rwa [hname] at hstep

/-- The loop over the standard extensions. -/
theorem foldl_mergeStdLetter {cs : List Char} (hcs : cs.Nodup) (hletters : ∀ c ∈ cs, riscvExtOrder c ≠ 0)
    (hin : st.inSubsets.Parsed) (hout : st.outSubsets.Parsed) (hm : st.mergedSubsets.Parsed) :
    (cs.foldl mergeStdLetter st).inSubsets = st.inSubsets ∧
      (cs.foldl mergeStdLetter st).outSubsets.multi = st.outSubsets.multi ∧
      (cs.foldl mergeStdLetter st).mergedSubsets.Parsed ∧
      ∀ k, entry k (cs.foldl mergeStdLetter st).mergedSubsets.nodes = (entry k st.mergedSubsets.nodes).or
        (entry k (cs.filterMap fun c => mergeEntry (st.inSubsets.find [c]) (st.outSubsets.find [c]))) := by
  induction cs generalizing st with
  | nil => exact ⟨rfl, rfl, hm, fun k => Option.or_none.symm⟩
  | cons c cs ih =>
    obtain ⟨hnot, hcs⟩ := List.nodup_cons.mp hcs
    have hc := hletters c List.mem_cons_self
    have hstep := mergeStdLetter_step hin hout hm hc
    have hin' : (mergeStdLetter st c).inSubsets.Parsed := hstep.inSubsets ▸ hin
    obtain ⟨hin₂, hmulti₂, hm₂, hentry₂⟩ :=
      ih hcs (fun d hd => hletters d (List.mem_cons_of_mem c hd)) hin' hstep.out hstep.merged
    -- the letters still to come find what they would have found before
    have hsame : ∀ d ∈ cs, mergeEntry ((mergeStdLetter st c).inSubsets.find [d])
        ((mergeStdLetter st c).outSubsets.find [d]) = mergeEntry (st.inSubsets.find [d]) (st.outSubsets.find [d]) := by
      intro d hd
      have hne : riscvCompareSubsets [c] [d] ≠ .eq := by
        intro heq
        have hcd := (goodName_letter hc).eq_of_compare
          (goodName_letter (hletters d (List.mem_cons_of_mem c hd))).parsed heq
        cases hcd
        exact hnot hd
      rw [hstep.inSubsets, find_eq hstep.out.toWf, find_eq hout.toWf, hstep.other _ hne]
    refine ⟨hin₂.trans hstep.inSubsets, hmulti₂.trans hstep.multi, hm₂, fun k => ?_⟩
    rw [List.foldl_cons, hentry₂ k, hstep.entry k, List.filterMap_congr hsame, Option.or_assoc]
    congr 1
    have happend (w : Option Subset) (rest : List Subset) :
        (entry k w.toList).or (entry k rest) = entry k (w.toList ++ rest) := (findKey_append k w.toList rest).symm
    rw [happend, List.filterMap_cons]
    cases mergeEntry (st.inSubsets.find [c]) (st.outSubsets.find [c]) <;> rfl

theorem foldl_addMerged {xs : List Subset} (hm : st.mergedSubsets.Parsed) (hxs : ∀ s ∈ xs, ParsedName s.name) :
    (xs.foldl MergeState.addMerged st).mergedSubsets.Parsed ∧
      ∀ k, entry k (xs.foldl MergeState.addMerged st).mergedSubsets.nodes =
        (entry k st.mergedSubsets.nodes).or (entry k xs) := by
  induction xs generalizing st with
  | nil => exact ⟨hm, fun k => Option.or_none.symm⟩
  | cons s xs ih =>
    have hm' : (st.addMerged s).mergedSubsets.Parsed := hm.add (hxs s List.mem_cons_self) _ _
    obtain ⟨hparsed, hentry⟩ := ih hm' fun t ht => hxs t (List.mem_cons_of_mem s ht)
    refine ⟨hparsed, fun k => ?_⟩
    rw [List.foldl_cons, hentry k, entry_addMerged hm.toWf s k, Option.or_assoc]
    congr 1
    exact (findKey_append k [s] xs).symm

theorem mergeEntry_none (o : Option Subset) : mergeEntry o none = o := by
  cases o <;> rfl

theorem none_mergeEntry (o : Option Subset) : mergeEntry none o = o := by
  cases o <;> rfl

/-- In an ordered list nothing is found at or below the key of something before it. -/
theorem entry_none_above {s : Subset} {rest : List Subset} {k : Name}
    (h : ∀ t ∈ rest, riscvCompareSubsets s.name t.name = .lt) (hk : riscvCompareSubsets s.name k = .eq) :
    entry k rest = none := by
  refine findKey_eq_none_iff.mpr fun t ht heq => ?_
  have hlt := h t ht
  rw [TransCmp.congr_left hk, OrientedCmp.eq_symm heq] at hlt
  cases hlt

/-- The two-pointer loop merges the two rests. -/
theorem riscvMergeMultiLetterExt_entry {fuel : Nat} {rest outRest : List Subset}
    (hfuel : rest.length + outRest.length < fuel) (hrest : Ordered riscvCompareSubsets Subset.name rest)
    (houtRest : Ordered riscvCompareSubsets Subset.name outRest) (hnames : ∀ t ∈ rest, ParsedName t.name)
    (houtNames : ∀ t ∈ outRest, ParsedName t.name) (hm : st.mergedSubsets.Parsed) :
    (riscvMergeMultiLetterExt fuel rest outRest st).mergedSubsets.Parsed ∧
      ∀ k, entry k (riscvMergeMultiLetterExt fuel rest outRest st).mergedSubsets.nodes =
        (entry k st.mergedSubsets.nodes).or (mergeEntry (entry k rest) (entry k outRest)) := by
  induction fuel generalizing rest outRest st with
  | zero => exact absurd hfuel (Nat.not_lt_zero _)
  | succ fuel ih =>
    cases outRest with
    | nil =>
      obtain ⟨hparsed, hentry⟩ := foldl_addMerged hm hnames
      rw [show riscvMergeMultiLetterExt (fuel + 1) rest [] st = rest.foldl MergeState.addMerged st by
        cases rest <;> rfl]
      refine ⟨hparsed, fun k => ?_⟩
      rw [hentry k, entry_nil, mergeEntry_none]
    | cons out outRest =>
      obtain ⟨hout, houtRest'⟩ := List.pairwise_cons.mp houtRest
      have hon : ParsedName out.name := houtNames out List.mem_cons_self
      have houtNames' : ∀ t ∈ outRest, ParsedName t.name := fun t ht => houtNames t (List.mem_cons_of_mem out ht)
      cases rest with
      | nil =>
        obtain ⟨hparsed, hentry⟩ := foldl_addMerged hm houtNames
        refine ⟨hparsed, fun k => ?_⟩
        rw [riscvMergeMultiLetterExt, hentry k, entry_nil, none_mergeEntry]
        exact List.cons_ne_nil out outRest
      | cons s rest =>
        obtain ⟨hs, hrest'⟩ := List.pairwise_cons.mp hrest
        have hsn : ParsedName s.name := hnames s List.mem_cons_self
        have hnames' : ∀ t ∈ rest, ParsedName t.name := fun t ht => hnames t (List.mem_cons_of_mem s ht)
        rw [List.length_cons, List.length_cons] at hfuel
        rw [riscvMergeMultiLetterExt]
        split
        · rename_i hcmp
          have hm' : (st.addMerged s).mergedSubsets.Parsed := hm.add hsn _ _
          obtain ⟨hparsed, hentry⟩ := ih (by rw [List.length_cons]; omega) hrest' houtRest hnames' houtNames hm'
          refine ⟨hparsed, fun k => ?_⟩
          rw [hentry k, entry_addMerged hm.toWf s k, entry_singleton, entry_cons k s rest, Option.or_assoc]
          congr 1
          split
          · rename_i hk
            have habove : entry k (out :: outRest) = none := entry_none_above (fun t ht => by
              rcases List.mem_cons.mp ht with rfl | ht
              · exact hcmp
              · exact TransCmp.lt_trans hcmp (hout t ht)) hk
            rw [habove, mergeEntry_none, mergeEntry_none, Option.some_or]
          · rw [Option.none_or]
        · rename_i hcmp
          have hm' : (st.addMerged out).mergedSubsets.Parsed := hm.add hon _ _
          obtain ⟨hparsed, hentry⟩ := ih (by rw [List.length_cons]; omega) hrest houtRest' hnames houtNames' hm'
          refine ⟨hparsed, fun k => ?_⟩
          rw [hentry k, entry_addMerged hm.toWf out k, entry_singleton, entry_cons k out outRest, Option.or_assoc]
          congr 1
          split
          · rename_i hk
            have hlt := OrientedCmp.lt_of_gt hcmp
            have habove : entry k (s :: rest) = none := entry_none_above (fun t ht => by
              rcases List.mem_cons.mp ht with rfl | ht
              · exact hlt
              · exact TransCmp.lt_trans hlt (hs t ht)) hk
            rw [habove, none_mergeEntry, none_mergeEntry, Option.some_or]
          · rw [Option.none_or]
        · rename_i hcmp
          have hname := riscvUpdateSubsetVersion_name s out
          have hm' : (st.mergeBoth s out).mergedSubsets.Parsed := hm.add (hname ▸ hon) _ _
          obtain ⟨hparsed, hentry⟩ := ih (by omega) hrest' houtRest' hnames' houtNames' hm'
          refine ⟨hparsed, fun k => ?_⟩
          have hadd : entry k (st.mergeBoth s out).mergedSubsets.nodes = _ := entry_addMerged hm.toWf _ k
          rw [hentry k, hadd, entry_singleton, hname, entry_cons k s rest, entry_cons k out outRest, Option.or_assoc,
            TransCmp.congr_left hcmp]
          congr 1
          split
          · rfl
          · rw [Option.none_or]

end Merged

/-! ## What is merged -/

section Included

variable {l l' : SubsetList}

/-- Names that no loop of the merge looks for: i after e, and g, k and z. -/
def skippedNames : List Name := [['i'], ['g'], ['k'], ['z']]

/-- The nodes that take part in the merge. -/
def included : List Subset → List Subset
  | [] => []
  | s :: rest => s :: rest.filter (·.name ∉ skippedNames)

theorem included_sublist (nodes : List Subset) : (included nodes).Sublist nodes := by
  cases nodes with
  | nil => exact .slnil
  | cons s rest => exact List.filter_sublist.cons_cons s

/-- The canonical letters that the loop leaves out. -/
theorem mem_standardExts {c : Char} (h : riscvExtOrder c ≠ 0) :
    c ∈ standardExts ∨ c = 'e' ∨ [c] ∈ skippedNames := by
  have htable : ∀ m < 26, riscvExtOrderTable.getD m 0 ≠ 0 → Char.ofNat (97 + m) ∈ standardExts ∨
      Char.ofNat (97 + m) = 'e' ∨ [Char.ofNat (97 + m)] ∈ skippedNames := by decide
  obtain ⟨hlow, hhigh⟩ := riscvExtOrder_range (Nat.pos_of_ne_zero h)
  have hread : riscvExtOrder c = riscvExtOrderTable.getD (c.toNat - 97) 0 := if_neg (Nat.not_lt.mpr hlow)
  have hc := htable (c.toNat - 97) hhigh (hread ▸ h)
  rwa [Nat.add_sub_of_le hlow, Char.ofNat_toNat] at hc

theorem standardExts_letters : ∀ c ∈ standardExts, riscvExtOrder c ≠ 0 ∧ [c] ∉ skippedNames ∧ c ≠ 'e' ∧ c ≠ 'i' := by
  decide

/-- The standard extension with this key that the loop looks for. -/
def letterOf (k : Name) : Option Char := standardExts.find? fun c => riscvCompareSubsets [c] k = .eq

theorem letterOf_some {k : Name} {c : Char} (h : letterOf k = some c) :
    c ∈ standardExts ∧ riscvCompareSubsets [c] k = .eq := by
  have hfound := List.find?_some h
  exact ⟨List.mem_of_find?_eq_some h, of_decide_eq_true hfound⟩

theorem entry_letters {f : Char → Option Subset} (hf : ∀ c ∈ standardExts, ∀ w ∈ f c, w.name = [c]) (k : Name) :
    entry k (standardExts.filterMap f) = (letterOf k).bind f := by
  suffices h : ∀ cs : List Char, (∀ c ∈ cs, c ∈ standardExts) → entry k (cs.filterMap f) =
      (cs.find? fun c => riscvCompareSubsets [c] k = .eq).bind f from h standardExts fun c hc => hc
  intro cs
  induction cs with
  | nil => exact fun _ => rfl
  | cons c cs ih =>
    intro hcs
    have hih := ih fun d hd => hcs d (List.mem_cons_of_mem c hd)
    have hc := hcs c List.mem_cons_self
    rw [List.filterMap_cons, List.find?_cons]
    cases hfc : f c with
    | none =>
      dsimp only
      rw [hih]
      split
      · -- a letter with the same key is the same letter
        rename_i hk
        cases hfind : cs.find? fun c => riscvCompareSubsets [c] k = .eq with
        | none => exact hfc.symm
        | some d =>
          have hd := List.find?_some hfind
          have hcd : [c] = [d] := by
            refine (goodName_letter (standardExts_letters c hc).1).eq_of_compare (goodName_letter ?_).parsed ?_
            · exact (standardExts_letters d (hcs d (List.mem_cons_of_mem c (List.mem_of_find?_eq_some hfind)))).1
            · exact TransCmp.eq_trans (of_decide_eq_true hk) (OrientedCmp.eq_symm (of_decide_eq_true hd))
          cases hcd
          rfl
      · rfl
    | some w =>
      dsimp only
      rw [entry_cons, hf c hc w hfc]
      split
      · rename_i hk
        rw [decide_eq_true hk]
        exact hfc.symm
      · rename_i hk
        rw [decide_eq_false hk, hih]

/-- The multi-letter extensions are in order too. -/
theorem multi_ordered (hl : l.Parsed) : Ordered riscvCompareSubsets Subset.name l.multi ∧
    ∀ t ∈ l.multi, ParsedName t.name := by
  rw [hl.multi_eq]
  refine ⟨hl.ordered.sublist (List.filter_sublist.trans (List.tail_sublist _)), fun t ht => ?_⟩
  exact hl.names t (List.mem_of_mem_tail (List.mem_filter.mp ht).1)

/-- A letter is not among them. -/
theorem entry_multi_letter (hl : l.Parsed) {k : Name} {c : Char} (horder : riscvExtOrder c ≠ 0)
    (hck : riscvCompareSubsets [c] k = .eq) : entry k l.multi = none := by
  rw [hl.multi_eq]
  refine findKey_eq_none_iff.mpr fun t ht htk => ?_
  obtain ⟨hmem, hnot⟩ := List.mem_filter.mp ht
  have hgood := goodName_letter horder
  rw [← hgood.eq_of_compare (hl.names t (List.mem_of_mem_tail hmem))
    (TransCmp.eq_trans hck (OrientedCmp.eq_symm htk)),
    (riscvStdExtP_iff hgood.parsed).mpr (.inl (Nat.pos_of_ne_zero horder))] at hnot
  cases hnot

/-- Where an entry other than the base takes part in the merge. -/
theorem entry_included (hl : l.Parsed) {s : Subset} (hs : s ∈ l.nodes.head?) (k : Name)
    (hk : riscvCompareSubsets s.name k ≠ .eq) :
    entry k (included l.nodes) = ((letterOf k).bind fun c => l.find [c]).or (entry k l.multi) := by
  obtain ⟨rest, hrest⟩ := List.head?_eq_some_iff.mp hs
  have hord := hl.ordered
  rw [hrest] at hord
  obtain ⟨hfirst, hordRest⟩ := List.pairwise_cons.mp hord
  have hmulti : l.multi = rest.filter fun t => !riscvStdExtP t.name := by
    rw [hl.multi_eq, hrest]
    rfl
  have hnames : ∀ t ∈ rest, ParsedName t.name := fun t ht => hl.names t (by rw [hrest]; exact List.mem_cons_of_mem s ht)
  have hincluded : entry k (included l.nodes) = entry k (rest.filter (·.name ∉ skippedNames)) := by
    rw [hrest, included, entry_cons, if_neg hk]
  have hordKept := hordRest.sublist (List.filter_sublist (p := fun t => decide (t.name ∉ skippedNames)))
  have hordMulti := hordRest.sublist (List.filter_sublist (p := fun t => !riscvStdExtP t.name))
  rw [hincluded]
  cases hletter : letterOf k with
  | some c =>
    obtain ⟨hc, hck⟩ := letterOf_some hletter
    obtain ⟨horder, hkept, -, -⟩ := standardExts_letters c hc
    have hgood := goodName_letter horder
    have hname : ∀ t ∈ rest, riscvCompareSubsets t.name k = .eq → t.name = [c] := by
      intro t ht htk
      exact (hgood.eq_of_compare (hnames t ht) (TransCmp.eq_trans hck (OrientedCmp.eq_symm htk))).symm
    rw [entry_multi_letter hl horder hck, Option.or_none, Option.bind_some]
    refine Option.ext fun t => ?_
    rw [hl.find_eq_some_iff hgood, hrest]
    rw [entry_eq_some_iff hordKept, List.mem_filter, decide_eq_true_iff]
    constructor
    · rintro ⟨⟨ht, -⟩, htk⟩
      exact ⟨List.mem_cons_of_mem s ht, hname t ht htk⟩
    · rintro ⟨ht, htname⟩
      rcases List.mem_cons.mp ht with rfl | ht
      · exact absurd (htname ▸ hck) hk
      · exact ⟨⟨ht, htname ▸ hkept⟩, htname ▸ hck⟩
  | none =>
    rw [hmulti, Option.bind_none, Option.none_or]
    refine Option.ext fun t => ?_
    rw [entry_eq_some_iff hordKept, entry_eq_some_iff hordMulti, List.mem_filter, List.mem_filter, decide_eq_true_iff,
      Bool.not_eq_true']
    refine and_congr_left fun htk => and_congr_right fun ht => ?_
    rw [← Bool.not_eq_true, riscvStdExtP_iff (hnames t ht)]
    refine not_congr ⟨?_, ?_⟩
    · intro hskip
      revert hskip
      generalize t.name = n
      revert n
      decide
    · rintro (horder | hz)
      · obtain ⟨c, hc⟩ := List.length_eq_one_iff.mp ((hnames t ht).length_eq_one horder)
        rw [hc] at horder htk ⊢
        rcases mem_standardExts (Nat.pos_iff_ne_zero.mp horder) with hstd | he | hskip
        · have hfind := List.find?_eq_none.mp hletter c hstd
          exact absurd (decide_eq_true htk) hfind
        · have hlt := hfirst t ht
          rw [hc, he] at hlt
          exact absurd hlt not_lt_e
        · exact hskip
      · rw [hz]
        decide

/-- What is merged of a letter has its name. -/
theorem mergeEntry_find_name (hl : l.Parsed) (hl' : l'.Parsed) {c : Char} (horder : riscvExtOrder c ≠ 0) {w : Subset}
    (hw : w ∈ mergeEntry (l.find [c]) (l'.find [c])) : w.name = [c] := by
  have hgood := goodName_letter horder
  cases hfin : l.find [c] with
  | none =>
    rw [hfin, none_mergeEntry] at hw
    exact ((hl'.find_eq_some_iff hgood w).mp hw).2
  | some t =>
    cases hfout : l'.find [c] with
    | none =>
      rw [hfin, hfout, mergeEntry_none] at hw
      cases hw
      exact ((hl.find_eq_some_iff hgood w).mp hfin).2
    | some t' =>
      rw [hfin, hfout] at hw
      cases hw
      rw [riscvUpdateSubsetVersion_name]
      exact ((hl'.find_eq_some_iff hgood t').mp hfout).2

/-- What is merged of the base, of the letters and of the rest is what is merged of all that takes part. -/
theorem mergeEntry_included (hl : l.Parsed) (hl' : l'.Parsed) {s s' : Subset} (hs : s ∈ l.nodes.head?)
    (hs' : s' ∈ l'.nodes.head?) (hsame : s.name = s'.name) (k : Name) :
    ((if riscvCompareSubsets s'.name k = .eq then some (riscvUpdateSubsetVersion s s') else none).or
        ((letterOf k).bind fun c => mergeEntry (l.find [c]) (l'.find [c]))).or
          (mergeEntry (entry k l.multi) (entry k l'.multi)) =
      mergeEntry (entry k (included l.nodes)) (entry k (included l'.nodes)) := by
  by_cases hk : riscvCompareSubsets s'.name k = .eq
  · obtain ⟨rest, hrest⟩ := List.head?_eq_some_iff.mp hs
    obtain ⟨rest', hrest'⟩ := List.head?_eq_some_iff.mp hs'
    rw [if_pos hk, hrest, hrest', included, included, entry_cons, entry_cons, if_pos hk, if_pos (hsame ▸ hk)]
    rfl
  · rw [if_neg hk, Option.none_or, entry_included hl hs k (hsame ▸ hk), entry_included hl' hs' k hk]
    cases hletter : letterOf k with
    | none => rfl
    | some c =>
      obtain ⟨hc, hck⟩ := letterOf_some hletter
      have horder := (standardExts_letters c hc).1
      rw [entry_multi_letter hl horder hck, entry_multi_letter hl' horder hck, Option.or_none, Option.or_none,
        mergeEntry_none, Option.or_none]
      rfl

/-- The merged list: every entry of the nodes that take part, each with what is merged of the two. -/
theorem mergeParsed_spec (archSize : Nat) (hl : l.Parsed) (hl' : l'.Parsed) (hbase : SameBase l l') :
    ∃ m : SubsetList, m.Parsed ∧
      (∀ k, entry k m.nodes = mergeEntry (entry k (included l.nodes)) (entry k (included l'.nodes))) ∧
      ∀ inArch outArch, mergeParsed archSize inArch outArch archSize archSize { inSubsets := l, outSubsets := l' } =
        (.arch (riscvArchStr archSize m), [], {}) := by
  obtain ⟨s, hs, s', hs', hname, hsame⟩ := hbase
  have hmem' : s' ∈ l'.nodes := List.mem_of_mem_head? hs'
  have hstd : riscvStdExtP s'.name = true := by
    rw [hsame]
    rcases hname with h | h <;> rw [h] <;> decide
  set st : MergeState := { inSubsets := l, outSubsets := l' } with hst
  have hstep : MergeStep s'.name (some (riscvUpdateSubsetVersion s s')) st (st.mergeBoth s s') :=
    mergeBoth_step hl' SubsetList.Parsed.nil hmem' hstd s
  obtain ⟨hin, hmulti, hm, hentry⟩ := foldl_mergeStdLetter (by decide) (fun c hc => (standardExts_letters c hc).1)
    (hstep.inSubsets ▸ hl) hstep.out hstep.merged
  set st₁ := standardExts.foldl mergeStdLetter (st.mergeBoth s s') with hst₁
  have hinMulti : st₁.inSubsets.multi = l.multi := by rw [hin, hstep.inSubsets]
  have houtMulti : st₁.outSubsets.multi = l'.multi := hmulti.trans hstep.multi
  obtain ⟨hparsed, hfinal⟩ := riscvMergeMultiLetterExt_entry (Nat.lt_succ_self _) (multi_ordered hl).1
    (multi_ordered hl').1 (multi_ordered hl).2 (multi_ordered hl').2 hm
  refine ⟨_, hparsed, fun k => ?_, fun inArch outArch => ?_⟩
  · -- the letters find what stands in the two lists
    have hletters : ∀ c ∈ standardExts,
        mergeEntry ((st.mergeBoth s s').inSubsets.find [c]) ((st.mergeBoth s s').outSubsets.find [c]) =
          mergeEntry (l.find [c]) (l'.find [c]) := by
      intro c hc
      obtain ⟨horder, -, hce, hci⟩ := standardExts_letters c hc
      have hne : riscvCompareSubsets s'.name [c] ≠ .eq := by
        intro heq
        have hcs := (goodName_letter horder).eq_of_compare (hl'.names s' hmem') (OrientedCmp.eq_symm heq)
        rw [hsame] at hcs
        rcases hname with h | h <;> rw [h] at hcs <;> cases hcs
        · exact hce rfl
        · exact hci rfl
      rw [hstep.inSubsets, find_eq hstep.out.toWf, find_eq hl'.toWf, hstep.other _ hne]
    have hnames : ∀ c ∈ standardExts, ∀ w ∈ mergeEntry (l.find [c]) (l'.find [c]), w.name = [c] :=
      fun c hc w hw => mergeEntry_find_name hl hl' (standardExts_letters c hc).1 hw
    have hempty : entry k st.mergedSubsets.nodes = none := rfl
    have hbaseEntry : entry k (some (riscvUpdateSubsetVersion s s')).toList =
        if riscvCompareSubsets s'.name k = .eq then some (riscvUpdateSubsetVersion s s') else none := by
      rw [Option.toList_some, entry_singleton, riscvUpdateSubsetVersion_name]
    rw [hfinal k, hentry k, hstep.entry k, List.filterMap_congr hletters, entry_letters hnames k, hempty,
      Option.none_or, hbaseEntry]
    exact mergeEntry_included hl hl' hs hs' hsame.symm k
  · have hok : riscvMergeStdExt inArch outArch st = .ok st₁ := by
      obtain ⟨t, ht, t', ht', -, -, hstdExt⟩ :=
        @riscvMergeStdExt_of_sameBase st inArch outArch ⟨s, hs, s', hs', hname, hsame⟩
      rw [hstdExt, Option.mem_unique ht hs, Option.mem_unique ht' hs']
    rw [mergeParsed, if_neg (not_not_intro rfl), hok]
    dsimp only
    rw [if_neg (not_not_intro rfl), hinMulti, houtMulti]

end Included

/-! ## Versions -/

section Versions

variable {s t out : Subset}

/-- The version is not newer. -/
def Subset.le (s t : Subset) : Prop := s.major < t.major ∨ (s.major = t.major ∧ s.minor ≤ t.minor)

instance (s t : Subset) : Decidable (s.le t) := inferInstanceAs (Decidable (_ ∨ _))

theorem Subset.le_refl (s : Subset) : s.le s := .inr ⟨rfl, Int.le_refl _⟩

theorem Subset.le_trans {s t u : Subset} (h : s.le t) (h' : t.le u) : s.le u := by
  unfold Subset.le at *
  omega

theorem VersionOk.of_unknown (h : VersionOk s.major s.minor) (hs : s.unknown = true) :
    s.major = -1 ∧ s.minor = -1 := by
  rw [Subset.unknown, decide_eq_true_iff] at hs
  unfold VersionOk riscvUnknownVersion at *
  omega

/-- No version, or one that is not negative. -/
structure PlainVersion (s : Subset) : Prop where
  ok : VersionOk s.major s.minor
  nonneg : s.unknown = false → 0 ≤ s.major ∧ 0 ≤ s.minor

/-- A version that is not negative is newer than none. -/
theorem PlainVersion.cases (h : PlainVersion s) :
    (s.major = -1 ∧ s.minor = -1) ∨ (s.unknown = false ∧ 0 ≤ s.major ∧ 0 ≤ s.minor) := by
  cases hs : s.unknown with
  | true => exact .inl (h.ok.of_unknown hs)
  | false => exact .inr ⟨rfl, h.nonneg hs⟩

/-- The newer version is taken. -/
theorem riscvUpdateSubsetVersion_le (hs : PlainVersion s) (hout : PlainVersion out) :
    s.le (riscvUpdateSubsetVersion s out) ∧ out.le (riscvUpdateSubsetVersion s out) := by
  have hs := hs.cases
  have hout := hout.cases
  unfold riscvUpdateSubsetVersion
  split
  · refine ⟨Subset.le_refl s, ?_⟩
    unfold riscvUnknownVersion at *
    unfold Subset.le
    dsimp only
    omega
  · refine ⟨?_, Subset.le_refl out⟩
    unfold Subset.le
    omega

theorem riscvUpdateSubsetVersion_eq (h : s.name = out.name) :
    riscvUpdateSubsetVersion s out = s ∨ riscvUpdateSubsetVersion s out = out := by
  unfold riscvUpdateSubsetVersion
  split
  · rw [← h]
    exact .inl rfl
  · exact .inr rfl

theorem riscvUpdateSubsetVersion_version (s out : Subset) :
    ((riscvUpdateSubsetVersion s out).major = s.major ∧ (riscvUpdateSubsetVersion s out).minor = s.minor) ∨
      ((riscvUpdateSubsetVersion s out).major = out.major ∧ (riscvUpdateSubsetVersion s out).minor = out.minor) := by
  unfold riscvUpdateSubsetVersion
  split
  · exact .inl ⟨rfl, rfl⟩
  · exact .inr ⟨rfl, rfl⟩

theorem unknown_congr (hmajor : s.major = t.major) (hminor : s.minor = t.minor) : s.unknown = t.unknown := by
  rw [Subset.unknown, Subset.unknown, hmajor, hminor]

theorem Subset.le.known (h : s.le t) (hs : PlainVersion s) (ht : PlainVersion t) (hknown : s.unknown = false) :
    t.unknown = false := by
  by_contra hunknown
  obtain ⟨hmajor, hminor⟩ := ht.ok.of_unknown (Bool.not_eq_false _ ▸ hunknown)
  have hpos := (hs.nonneg hknown).1
  unfold Subset.le at h
  omega

end Versions

/-! ## The merge of two parsed strings -/

section MergedFrom

variable {l l' m : SubsetList}

/-- A list that the linker has parsed, without negative versions. -/
structure LdList (l : SubsetList) : Prop where
  parsed : l.Parsed
  nodes : ∃ base, Nodes riscvRpsLd base l.nodes
  nonneg : NoNegative l.nodes

/-- The list merged from two. -/
structure MergedFrom (l l' m : SubsetList) : Prop where
  left : LdList l
  right : LdList l'
  base : SameBase l l'
  parsed : m.Parsed
  entry : ∀ k, entry k m.nodes = mergeEntry (entry k (included l.nodes)) (entry k (included l'.nodes))

/-- The nodes that take part, of either list. -/
def Partakes (l l' : SubsetList) (t : Subset) : Prop := t ∈ included l.nodes ∨ t ∈ included l'.nodes

theorem LdList.ok (h : LdList l) {t : Subset} (ht : t ∈ included l.nodes) : NodeOk riscvRpsLd t := by
  obtain ⟨base, hbase⟩ := h.nodes
  exact hbase.ok t ((included_sublist l.nodes).subset ht)

theorem LdList.version (h : LdList l) {t : Subset} (ht : t ∈ included l.nodes) : PlainVersion t :=
  ⟨(h.ok ht).version, h.nonneg t ((included_sublist l.nodes).subset ht)⟩

theorem LdList.ordered (h : LdList l) : Ordered riscvCompareSubsets Subset.name (included l.nodes) :=
  h.parsed.ordered.sublist (included_sublist l.nodes)

theorem Partakes.ok (h : MergedFrom l l' m) {t : Subset} (ht : Partakes l l' t) : NodeOk riscvRpsLd t :=
  ht.elim h.left.ok h.right.ok

theorem Partakes.version (h : MergedFrom l l' m) {t : Subset} (ht : Partakes l l' t) : PlainVersion t :=
  ht.elim h.left.version h.right.version

/-- Where a merged node comes from: its name from one that takes part, its version from one with that key. -/
theorem MergedFrom.origin (h : MergedFrom l l' m) {w : Subset} (hw : w ∈ m.nodes) :
    (∃ t, Partakes l l' t ∧ t.name = w.name) ∧
      ∃ t, Partakes l l' t ∧ riscvCompareSubsets t.name w.name = .eq ∧ t.major = w.major ∧ t.minor = w.minor := by
  have hentry := h.entry w.name
  have hself : riscvCompareSubsets w.name w.name = .eq := ReflCmp.compare_self
  rw [entry_of_mem h.parsed.ordered hw] at hentry
  cases hs : Isa.entry w.name (included l.nodes) with
  | none =>
    rw [hs, none_mergeEntry] at hentry
    have hmem : Partakes l l' w := .inr (entry_mem hentry.symm)
    exact ⟨⟨w, hmem, rfl⟩, w, hmem, hself, rfl, rfl⟩
  | some s =>
    have hsmem : Partakes l l' s := .inl (entry_mem hs)
    cases ho : Isa.entry w.name (included l'.nodes) with
    | none =>
      rw [hs, ho, mergeEntry_none] at hentry
      cases hentry
      exact ⟨⟨w, hsmem, rfl⟩, w, hsmem, hself, rfl, rfl⟩
    | some out =>
      have homem : Partakes l l' out := .inr (entry_mem ho)
      rw [hs, ho] at hentry
      have hw : w = riscvUpdateSubsetVersion s out := Option.some.inj hentry
      refine ⟨⟨out, homem, ?_⟩, ?_⟩
      · rw [hw, riscvUpdateSubsetVersion_name]
      · rcases riscvUpdateSubsetVersion_version s out with ⟨hmajor, hminor⟩ | ⟨hmajor, hminor⟩
        · exact ⟨s, hsmem, entry_compare hs, by rw [hw, hmajor], by rw [hw, hminor]⟩
        · exact ⟨out, homem, entry_compare ho, by rw [hw, hmajor], by rw [hw, hminor]⟩

theorem MergedFrom.version (h : MergedFrom l l' m) {w : Subset} (hw : w ∈ m.nodes) : PlainVersion w := by
  obtain ⟨-, t, ht, -, hmajor, hminor⟩ := h.origin hw
  obtain ⟨hok, hneg⟩ := ht.version h
  rw [unknown_congr hmajor hminor, hmajor, hminor] at hneg
  rw [hmajor, hminor] at hok
  exact ⟨hok, hneg⟩

/-- Every node that takes part is merged, with a version that is not older. -/
theorem MergedFrom.newer (h : MergedFrom l l' m) {t : Subset} (ht : Partakes l l' t) :
    ∃ w ∈ m.nodes, riscvCompareSubsets w.name t.name = .eq ∧ t.le w := by
  have hentry := h.entry t.name
  cases hs : Isa.entry t.name (included l.nodes) with
  | none =>
    have htmem : t ∈ included l'.nodes := by
      refine ht.resolve_left fun hl => ?_
      rw [entry_of_mem h.left.ordered hl] at hs
      cases hs
    rw [hs, entry_of_mem h.right.ordered htmem, none_mergeEntry] at hentry
    exact ⟨t, entry_mem hentry, ReflCmp.compare_self, t.le_refl⟩
  | some s =>
    cases ho : Isa.entry t.name (included l'.nodes) with
    | none =>
      have htmem : t ∈ included l.nodes := by
        refine ht.resolve_right fun hl => ?_
        rw [entry_of_mem h.right.ordered hl] at ho
        cases ho
      rw [entry_of_mem h.left.ordered htmem, ho, mergeEntry_none] at hentry
      exact ⟨t, entry_mem hentry, ReflCmp.compare_self, t.le_refl⟩
    | some out =>
      have hle := riscvUpdateSubsetVersion_le (h.left.version (entry_mem hs)) (h.right.version (entry_mem ho))
      have hst : t = s ∨ t = out := by
        rcases ht with hl | hl
        · rw [entry_of_mem h.left.ordered hl] at hs
          exact .inl (Option.some.inj hs)
        · rw [entry_of_mem h.right.ordered hl] at ho
          exact .inr (Option.some.inj ho)
      rw [hs, ho] at hentry
      refine ⟨_, entry_mem hentry, entry_compare hentry, ?_⟩
      rcases hst with rfl | rfl
      · exact hle.1
      · exact hle.2

/-- The merged list starts with the base, which is not older than either, and has no i behind it. -/
theorem MergedFrom.head (h : MergedFrom l l' m) : ∃ w rest, m.nodes = w :: rest ∧
    (∃ s ∈ l.nodes.head?, w.name = s.name ∧ s.le w) ∧ (∃ s ∈ l'.nodes.head?, w.name = s.name ∧ s.le w) ∧
    (w.name = ['e'] ∨ w.name = ['i']) ∧ ∀ t ∈ rest, t.name ∉ skippedNames := by
  obtain ⟨s, hs, s', hs', hname, hsame⟩ := h.base
  obtain ⟨rest, hrest⟩ := List.head?_eq_some_iff.mp hs
  obtain ⟨rest', hrest'⟩ := List.head?_eq_some_iff.mp hs'
  have hsmem : s ∈ included l.nodes := by
    rw [hrest]
    exact List.mem_cons_self
  have hsmem' : s' ∈ included l'.nodes := by
    rw [hrest']
    exact List.mem_cons_self
  have hgood : GoodName s.name := by rcases hname with hb | hb <;> rw [hb] <;> decide
  -- the names of what takes part
  have hnames : ∀ t, Partakes l l' t → t.name = s.name ∨ t.name ∉ skippedNames := by
    rintro t (ht | ht)
    · rw [hrest] at ht
      rcases List.mem_cons.mp ht with rfl | ht
      · exact .inl rfl
      · exact .inr (of_decide_eq_true (List.mem_filter.mp ht).2)
    · rw [hrest'] at ht
      rcases List.mem_cons.mp ht with rfl | ht
      · exact .inl hsame
      · exact .inr (of_decide_eq_true (List.mem_filter.mp ht).2)
  have hexact {t w : Subset} (hw : w ∈ m.nodes) (htn : t.name = s.name)
      (hcmp : riscvCompareSubsets w.name t.name = .eq) : w.name = s.name := by
    rw [htn] at hcmp
    exact (hgood.eq_of_compare (h.parsed.names w hw) (OrientedCmp.eq_symm hcmp)).symm
  obtain ⟨b, hb, hbcmp, hble⟩ := h.newer (.inl hsmem)
  obtain ⟨b', hb', hbcmp', hble'⟩ := h.newer (.inr hsmem')
  have hbname := hexact hb rfl hbcmp
  have hbname' := hexact hb' hsame hbcmp'
  have hbb : b' = b := eq_of_compare h.parsed.ordered hb' hb (by rw [hbname, hbname']; exact ReflCmp.compare_self)
  obtain ⟨w, restM, hcons, hwname⟩ := h.parsed.head_base hb (hbname ▸ hname)
  have hord := h.parsed.ordered
  rw [hcons] at hord
  obtain ⟨hfirst, -⟩ := List.pairwise_cons.mp hord
  have hwmem : w ∈ m.nodes := by rw [hcons]; exact List.mem_cons_self
  obtain ⟨⟨t, ht, htname⟩, -⟩ := h.origin hwmem
  have hwb : w = b := by
    by_contra hne
    rw [hcons] at hb
    have hlt := hfirst b ((List.mem_cons.mp hb).resolve_left fun heq => hne heq.symm)
    rcases hname with hse | hsi
    · rw [hbname, hse] at hlt
      exact not_lt_e hlt
    · rw [hbname, hsi] at hlt
      have hwe := eq_e_of_lt_i (h.parsed.names w hwmem) hlt
      -- an e stands first, but the base is i
      have hte : t.name = ['e'] := htname.trans hwe
      have hts : t.name = s.name := by
        rcases ht with ht | ht
        · have hmem := (included_sublist l.nodes).subset ht
          have hordl := h.left.parsed.ordered
          rw [hrest] at hmem hordl
          rw [eq_head_of_e hordl hmem hte]
        · have hmem := (included_sublist l'.nodes).subset ht
          have hordl := h.right.parsed.ordered
          rw [hrest'] at hmem hordl
          rw [eq_head_of_e hordl hmem hte, hsame]
      rw [hte, hsi] at hts
      exact absurd hts (by decide)
  refine ⟨w, restM, hcons, ⟨s, hs, hwb ▸ hbname, hwb ▸ hble⟩, ⟨s', hs', ?_, ?_⟩, hwname, ?_⟩
  · rw [hwb, hsame]
    exact hbname
  · rw [hwb, ← hbb]
    exact hble'
  · intro u hu
    have humem : u ∈ m.nodes := by rw [hcons]; exact List.mem_cons_of_mem w hu
    obtain ⟨⟨v, hv, hvname⟩, -⟩ := h.origin humem
    rcases hnames v hv with hvs | hvs
    · -- a second base would stand twice in the list
      have hlt := hfirst u hu
      have hcmp : riscvCompareSubsets w.name u.name = .eq := by
        rw [hwb, hbname, ← hvname, hvs]
        exact ReflCmp.compare_self
      rw [hcmp] at hlt
      cases hlt
    · rwa [← hvname]

/-- The nodes with a version. -/
def versioned (nodes : List Subset) : List Subset := nodes.filter fun t => !t.unknown

theorem mem_versioned {nodes : List Subset} {t : Subset} : t ∈ versioned nodes ↔ t ∈ nodes ∧ t.unknown = false := by
  rw [versioned, List.mem_filter, Bool.not_eq_true']

/-- The base of the merged list has a version. -/
def KnownBase (m : SubsetList) : Prop := ∀ w ∈ m.nodes.head?, w.unknown = false

/-- With a base that has a version, what is written is what has a version. -/
theorem MergedFrom.shownNodes_eq (h : MergedFrom l l' m) (hknown : KnownBase m) :
    shownNodes m.nodes = versioned m.nodes := by
  obtain ⟨w, rest, hcons, -, -, -, hrest⟩ := h.head
  have hw : w.unknown = false := hknown w (by rw [hcons]; rfl)
  rw [hcons, shownNodes, versioned, List.filter_cons_of_pos (by rw [hw]; rfl)]
  congr 1
  refine List.filter_congr fun t ht => ?_
  have hi : t.name ≠ ['i'] := fun heq => hrest t ht (by rw [heq]; decide)
  rw [Subset.shown, decide_eq_true hi, Bool.and_true]

theorem MergedFrom.printable (h : MergedFrom l l' m) (hknown : KnownBase m) : Printable false (versioned m.nodes) := by
  obtain ⟨w, rest, hcons, -, -, hbase, hrest⟩ := h.head
  have hw : w.unknown = false := hknown w (by rw [hcons]; rfl)
  refine ⟨h.parsed.ordered.sublist List.filter_sublist, ⟨w, versioned rest, ?_, hbase, ?_⟩, ?_, ?_⟩
  · rw [hcons, versioned, List.filter_cons_of_pos (by rw [hw]; rfl)]
    rfl
  · intro t ht
    have htrest := (mem_versioned.mp ht).1
    refine ⟨fun he => ?_, fun hi => hrest t htrest (by rw [hi]; decide)⟩
    have hord := h.parsed.ordered
    rw [hcons] at hord
    have hlt := (List.pairwise_cons.mp hord).1 t htrest
    rw [he] at hlt
    exact not_lt_e hlt
  · intro t ht
    obtain ⟨htm, htk⟩ := mem_versioned.mp ht
    obtain ⟨⟨u, hu, huname⟩, -⟩ := h.origin htm
    obtain ⟨hmajor, hminor, hne⟩ := (h.version htm).ok.read htk
    obtain ⟨hpos, hpos'⟩ := (h.version htm).nonneg htk
    refine ⟨?_, ⟨hpos, hmajor.2⟩, ⟨hpos', hminor.2⟩, hne, fun hfalse => absurd hfalse (by decide)⟩
    show CleanName t.name
    rw [← huname]
    exact (hu.ok h).clean
  · intro t ht hg
    have htm := (mem_versioned.mp ht).1
    rw [hcons] at htm
    rcases List.mem_cons.mp htm with rfl | htm
    · rw [hg] at hbase
      exact absurd hbase (by decide)
    · exact hrest t htm (by rw [hg]; decide)

/-- Reading the merged string gives the closure of what has a version. -/
theorem MergedFrom.parse (h : MergedFrom l l' m) (hknown : KnownBase m) {xlen : Nat} (hxlen : xlen = 32 ∨ xlen = 64) :
    ∃ st, ldParse (riscvArchStr xlen m) = riscvParseCheckConflicts st ∧ st.list.Parsed ∧
      IsClosure none riscvImplicitSubsets (versioned m.nodes) st.list.nodes ∧ st.xlen = xlen ∧ st.errors = [] := by
  obtain ⟨st, hparse, hparsed, hclosure, hx, herrors⟩ :=
    @Printable.parse riscvRpsLd _ {} (h.printable hknown) xlen hxlen rfl
  refine ⟨st, ?_, hparsed, hclosure, hx, herrors⟩
  rw [ldParse, riscvArchStr, riscvArchStr1_eq h.parsed.ordered h.parsed.names, h.shownNodes_eq hknown]
  exact hparse

/-- A base without a version is written as `-1p-1`, which is not accepted. -/
theorem MergedFrom.not_accepted (h : MergedFrom l l' m) (hknown : ¬KnownBase m) {xlen : Nat}
    (hxlen : xlen = 32 ∨ xlen = 64) : (ldParse (riscvArchStr xlen m)).1 ≠ true := by
  obtain ⟨w, rest, hcons, -, -, hbase, -⟩ := h.head
  have hwmem : w ∈ m.nodes := by rw [hcons]; exact List.mem_cons_self
  have hw : w.unknown = true := by
    by_contra hne
    refine hknown fun v hv => ?_
    rw [hcons] at hv
    cases hv
    exact Bool.not_eq_true _ ▸ hne
  obtain ⟨hmajor, hminor⟩ := (h.version hwmem).ok.of_unknown hw
  obtain ⟨c, hc, hitem⟩ : ∃ c, (c = 'e' ∨ c = 'i') ∧ archItem w = c :: '-' :: '1' :: 'p' :: '-' :: '1' :: [] := by
    unfold archItem
    rw [hmajor, hminor]
    rcases hbase with hb | hb <;> rw [hb]
    · exact ⟨'e', .inl rfl, rfl⟩
    · exact ⟨'i', .inr rfl, rfl⟩
  intro haccepted
  obtain ⟨st, hst⟩ : ∃ st, ldParse (riscvArchStr xlen m) = (true, st) := ⟨_, Prod.ext haccepted rfl⟩
  obtain ⟨x, ts, -, p, hp, -, hscan⟩ := archForm_of_parse hst
  have hpeq : p = c :: '-' :: ('1' :: 'p' :: '-' :: '1' :: archTail w.name rest) := by
    have hdrop := (archXlen_suffix hp).1
    rw [hdrop, riscvArchStr, hcons, riscvArchStr1, hitem]
    rcases hxlen with rfl | rfl <;> rfl
  rw [hpeq] at hscan
  have hfirst : c ≠ '_' ∧ riscvExtOrder c ≠ 0 ∧ ∀ q, riscvGetPrefixClass (c :: q) = .single := by
    rcases hc with rfl | rfl
    · exact ⟨by decide, by decide, fun q => rfl⟩
    · exact ⟨by decide, by decide, fun q => rfl⟩
  rw [List.length_cons, List.length_cons, scanExtensions, if_neg hfirst.1, nextToken, hfirst.2.2] at hscan
  dsimp only at hscan
  rw [if_neg hfirst.2.1] at hscan
  dsimp only at hscan
  rw [if_neg (by simp)] at hscan
  have herr := congrArg Prod.snd hscan
  cases herr

end MergedFrom

end RiscvBinutils.Isa
