/-
`riscv_compare_subsets` as an order (bfd/elfxx-riscv.c).  On the names that `riscv_parse_subset` stores it is one
that tells different names apart, but for z extensions whose second letter has no place in the canonical order:
the linker and the disassembler store such names, and two of them compare as equal.
-/
import RiscvBinutils.Isa.Access
import RiscvBinutils.Isa.Merged

namespace RiscvBinutils.Isa

open Std RiscvBinutils.Base

/-! ## What the order should do -/

/-- A name that `riscv_parse_subset` stores for some string. -/
def Storable (check : Bool) (n : Name) : Prop :=
  ∃ rps arch, rps.checkUnknownPrefixedExt = check ∧ ∃ s ∈ (riscvParseSubset rps arch {}).2.list.nodes, s.name = n

/-- The comparison reads its table only, and it is a strict total order that agrees with equality. -/
structure TellsApart (N : Set Name) : Prop where
  accesses : ∀ a ∈ N, ∀ b ∈ N, AllInTable (compareAccesses a b)
  eq : ∀ a ∈ N, ∀ b ∈ N, (riscvCompareSubsets a b = .eq ↔ a = b)
  swap : ∀ a ∈ N, ∀ b ∈ N, riscvCompareSubsets b a = (riscvCompareSubsets a b).swap
  trans : ∀ a ∈ N, ∀ b ∈ N, ∀ c ∈ N, riscvCompareSubsets a b = .lt → riscvCompareSubsets b c = .lt →
    riscvCompareSubsets a c = .lt

/-- All names of the nodes are among these. -/
def NamesIn (N : Set Name) (nodes : List Subset) : Prop := ∀ s ∈ nodes, s.name ∈ N

/-- No extension is taken for another: a search finds the name it looks for, an addition leaves an entry of the
name added, and a merge leaves one for every name of either list. -/
structure NeverIdentified (N : Set Name) : Prop where
  find : ∀ l : SubsetList, l.Wf → NamesIn N l.nodes → ∀ n ∈ N, ∀ s, l.find n = some s → s.name = n
  add : ∀ l : SubsetList, l.Wf → NamesIn N l.nodes → ∀ n ∈ N, ∀ major minor,
    ∃ s ∈ (riscvAddSubset l n major minor).nodes, s.name = n
  merge : ∀ st fuel rest outRest, st.mergedSubsets.Wf → NamesIn N st.mergedSubsets.nodes → NamesIn N rest →
    NamesIn N outRest → Ordered riscvCompareSubsets Subset.name rest →
    Ordered riscvCompareSubsets Subset.name outRest → rest.length + outRest.length < fuel →
    ∀ s ∈ rest ++ outRest,
      ∃ t ∈ (riscvMergeMultiLetterExt fuel rest outRest st).mergedSubsets.nodes, t.name = s.name

/-- Every z extension has a letter behind the z, and no two of them differ in nothing but letters there that are
not in the canonical order. -/
structure Distinct (N : Set Name) : Prop where
  second : ∀ a ∈ N, SecondInTable a
  apart : ∀ a ∈ N, ∀ b ∈ N, riscvGetPrefixClass a = .z → riscvGetPrefixClass b = .z → headOrder (a.drop 1) = 0 →
    headOrder (b.drop 1) = 0 → a.drop 2 = b.drop 2 → a = b

/-! ## Stored names -/

section Stored

variable {check : Bool} {n : Name}

theorem Storable.parsed (h : Storable check n) : ParsedName n := by
  obtain ⟨rps, arch, -, s, hs, rfl⟩ := h
  exact (@Keeps.parse rps {} _ _ parsed_keeps .nil arch).names s hs

variable {rps : Rps} {st : ParseState}

theorem riscvParseAddSubset_name (hl : st.list.Parsed) {major minor : Int} {implicit : Bool} {s : Subset}
    (hs : s ∈ (riscvParseAddSubset rps st n major minor implicit).list.nodes) : s.name = n ∨ s ∈ st.list.nodes := by
  rw [riscvParseAddSubset] at hs
  split at hs
  · refine .inr ?_
    split at hs
    · exact hs
    · split at hs <;> exact hs
  · rcases mem_of_mem_add hl.toWf hs with rfl | hs
    · exact .inl rfl
    · exact .inr hs

theorem addToken_name (hl : st.list.Parsed) {t : Token} {s : Subset} (hs : s ∈ (addToken rps st t).list.nodes) :
    s.name = t.name ∨ s ∈ st.list.nodes := by
  rw [addToken] at hs
  split at hs <;> exact riscvParseAddSubset_name hl hs

theorem tokens_name {ts : List Token} (hl : st.list.Parsed) (hts : ∀ t ∈ ts, ParsedName t.name) {s : Subset}
    (hs : s ∈ (ts.foldl (addToken rps) st).list.nodes) : (∃ t ∈ ts, s.name = t.name) ∨ s ∈ st.list.nodes := by
  induction ts generalizing st with
  | nil => exact .inr hs
  | cons t ts ih =>
    have hparsed := (@addToken_added rps _ hl t (hts t List.mem_cons_self)).parsed
    rcases ih hparsed (fun u hu => hts u (List.mem_cons_of_mem t hu)) hs with ⟨u, hu, hname⟩ | hs
    · exact .inl ⟨u, List.mem_cons_of_mem t hu, hname⟩
    · rcases addToken_name hl hs with hname | hs
      · exact .inl ⟨t, List.mem_cons_self, hname⟩
      · exact .inr hs

/-- What the implied extensions add are names of the table. -/
theorem implicit_name (hl : st.list.Parsed) {s : Subset}
    (hs : s ∈ (riscvParseCheckConflicts (riscvParseAddImplicitSubsets rps st)).2.list.nodes) :
    GoodName s.name ∨ ∃ t ∈ st.list.nodes, t.name = s.name := by
  rw [(riscvParseCheckConflicts_list _).1] at hs
  have hclosure := (@addImplicitSubsets_spec rps _ _ riscvImplicitSubsets_good hl).2.2
  obtain ⟨himp, -⟩ := (hclosure s).mp hs
  generalize s.name = k at himp ⊢
  cases himp with
  | base ht => exact .inr ⟨_, ht, rfl⟩
  | row hr _ _ => exact .inl (riscvImplicitSubsets_good _ hr).2

/-- A recognized name is told apart from all others. -/
theorem CleanName.good (hn : CleanName n)
    (hknown : riscvGetPrefixClass n ≠ .single → riscvRecognizedPrefixedExt n = true) : GoodName n := by
  refine ⟨hn.parsed, fun hz => second_of_recognized (hknown ?_) hz⟩
  rw [hz]
  decide

/-- The extensions of a string when unknown ones are refused. -/
theorem extensions_good {arch p : List Char} (hcheck : rps.checkUnknownPrefixedExt = true)
    (hp : ∀ c ∈ p, isUpper c = false) (hst : st.list = {}) :
    (riscvParseExtensions rps arch p st).2.list.Parsed ∧
      ∀ s ∈ (riscvParseExtensions rps arch p st).2.list.nodes, GoodName s.name := by
  have hparsed : st.list.Parsed := hst ▸ .nil
  refine ⟨parsed_keeps.extensions hparsed hp, ?_⟩
  have hclean := @scanExtensions_clean rps.checkUnknownPrefixedExt arch p.length p hp
  have htokens : ∀ s ∈
      ((scanExtensions rps.checkUnknownPrefixedExt arch p.length p).1.foldl (addToken rps) st).list.nodes,
      GoodName s.name := by
    intro s hs
    rcases tokens_name hparsed (fun t ht => (hclean t ht).1.parsed) hs with ⟨t, ht, hname⟩ | hs
    · rw [hname]
      exact (hclean t ht).1.good ((hclean t ht).2.2 hcheck)
    · rw [hst] at hs
      cases hs
  rw [riscvParseExtensions]
  split
  · dsimp only
    split <;> exact htokens
  · intro s hs
    have hs : s ∈ st.list.nodes := hs
    rw [hst] at hs
    cases hs

/-- With unknown extensions refused, only names that are told apart are stored. -/
theorem Storable.good (h : Storable true n) : GoodName n := by
  obtain ⟨rps, arch, hcheck, s, hs, rfl⟩ := h
  unfold riscvParseSubset at hs
  split at hs
  · -- the default extensions are g and what it implies
    have hparsed : (riscvSetDefaultArch rps {}).list.Parsed := parsed_keeps.defaultArch .nil
    rcases implicit_name hparsed hs with hgood | ⟨t, ht, hname⟩
    · exact hgood
    · rw [riscvSetDefaultArch_eq] at ht
      rcases riscvParseAddSubset_name .nil ht with hg | ht
      · rw [← hname, hg]
        decide
      · cases ht
  · split at hs
    · cases hs
    · rename_i arch hlower
      split at hs
      · split at hs <;> cases hs
      · rename_i xlen p hxlen
        have hp := lower_of_archXlen (Bool.not_eq_true _ ▸ hlower) hxlen
        obtain ⟨hparsed, hgood⟩ := @extensions_good rps { xlen } arch p hcheck hp rfl
        split at hs
        · rename_i st₁ heq
          rw [heq] at hgood
          exact hgood s hs
        · rename_i st₁ heq
          rw [heq] at hgood hparsed
          rcases implicit_name hparsed hs with hgood' | ⟨t, ht, hname⟩
          · exact hgood'
          · exact hname ▸ hgood t ht

end Stored

/-! ## The order on names that are distinct -/

section Order

variable {N : Set Name}

/-- Two z extensions with the same end and second letters without a place compare as equal. -/
theorem compare_eq_of_confused {a b : Name} (ha : riscvGetPrefixClass a = .z) (hb : riscvGetPrefixClass b = .z)
    (hsa : headOrder (a.drop 1) = 0) (hsb : headOrder (b.drop 1) = 0) (hdrop : a.drop 2 = b.drop 2) :
    riscvCompareSubsets a b = .eq := by
  have hzero {n : Name} (hz : riscvGetPrefixClass n = .z) : ¬0 < headOrder n := by
    intro ho
    rw [class_eq_single_of_headOrder ho] at hz
    cases hz
  rw [riscvCompareSubsets, if_neg fun h => hzero ha h.1,
    if_pos (by rw [prefixedOrder_eq_z_iff.mpr ha, prefixedOrder_eq_z_iff.mpr hb]), if_pos ha,
    if_neg (not_not_intro (hsa.trans hsb.symm)), hdrop, strcasecmp_eq]
  exact ReflCmp.compare_self

theorem TellsApart.distinct (hN : ∀ n ∈ N, ParsedName n) (h : TellsApart N) : Distinct N where
  second := by
    intro a ha hz
    exact ((compareAccesses_inTable_iff (hN a ha).inTable (hN a ha).inTable).mp (h.accesses a ha a ha) hz hz).1
  apart := by
    intro a ha b hb hza hzb hsa hsb hdrop
    exact (h.eq a ha b hb).mp (compare_eq_of_confused hza hzb hsa hsb hdrop)

theorem Distinct.tellsApart (hN : ∀ n ∈ N, ParsedName n) (h : Distinct N) : TellsApart N where
  accesses := by
    intro a ha b hb
    rw [compareAccesses_inTable_iff (hN a ha).inTable (hN b hb).inTable]
    exact fun hza hzb => ⟨h.second a ha hza, h.second b hb hzb⟩
  eq := by
    intro a ha b hb
    constructor
    · intro heq
      exact (hN a ha).eq_of_compare (hN b hb) heq (h.apart a ha b hb)
    · rintro rfl
      exact ReflCmp.compare_self
  swap := fun a _ b _ => OrientedCmp.eq_swap
  trans := fun a _ b _ c _ hab hbc => TransCmp.lt_trans hab hbc

theorem TellsApart.name_eq (h : TellsApart N) {nodes : List Subset} (hnodes : NamesIn N nodes) {n : Name}
    (hn : n ∈ N) {s : Subset} (hs : entry n nodes = some s) : s.name = n :=
  (h.eq s.name (hnodes s (entry_mem hs)) n hn).mp (entry_compare hs)

/-- What is merged of two entries comes from one of them. -/
theorem mergeEntry_name {s out : Option Subset} {t : Subset} (h : mergeEntry s out = some t) :
    (∃ u, s = some u ∧ t.name = u.name) ∨ ∃ u, out = some u ∧ t.name = u.name := by
  cases s with
  | none =>
    rw [none_mergeEntry] at h
    exact .inr ⟨t, h, rfl⟩
  | some s =>
    cases out with
    | none =>
      rw [mergeEntry_none] at h
      exact .inl ⟨t, h, rfl⟩
    | some out =>
      cases h
      exact .inr ⟨out, rfl, riscvUpdateSubsetVersion_name s out⟩

theorem mergeEntry_isSome {s out : Option Subset} (h : s.isSome = true ∨ out.isSome = true) :
    (mergeEntry s out).isSome = true := by
  cases s <;> cases out <;> simp_all [mergeEntry]

theorem TellsApart.neverIdentified (hN : ∀ n ∈ N, ParsedName n) (h : TellsApart N) : NeverIdentified N where
  find := by
    intro l hl hnames n hn s hs
    rw [find_eq hl] at hs
    exact h.name_eq hnames hn hs
  add := by
    intro l hl hnames n hn major minor
    cases hentry : entry n l.nodes with
    | none => exact ⟨_, mem_add_self hl major minor hentry, rfl⟩
    | some s =>
      exact ⟨s, mem_add_of_mem hl n major minor (entry_mem hentry), h.name_eq hnames hn hentry⟩
  merge := by
    intro st fuel rest outRest hwf hmerged hrest hout hord houtOrd hfuel s hs
    have hparsed {nodes : List Subset} (hnodes : NamesIn N nodes) : ∀ t ∈ nodes, ParsedName t.name :=
      fun t ht => hN _ (hnodes t ht)
    have hentry := (riscvMergeMultiLetterExt_entry hfuel hord houtOrd (hparsed hrest) (hparsed hout)
      ⟨hwf, hparsed hmerged⟩).2 s.name
    have hmem : s.name ∈ N := by
      rcases List.mem_append.mp hs with hs | hs
      · exact hrest s hs
      · exact hout s hs
    -- the name is found in one of the two lists, so something of that name is merged
    have hsome : (mergeEntry (entry s.name rest) (entry s.name outRest)).isSome = true := by
      refine mergeEntry_isSome ?_
      rcases List.mem_append.mp hs with hs | hs
      · exact .inl (by rw [entry_of_mem hord hs]; rfl)
      · exact .inr (by rw [entry_of_mem houtOrd hs]; rfl)
    obtain ⟨t, ht⟩ := Option.isSome_iff_exists.mp hsome
    have htname : t.name = s.name := by
      rcases mergeEntry_name ht with ⟨u, hu, hname⟩ | ⟨u, hu, hname⟩
      · rw [hname, h.name_eq hrest hmem hu]
      · rw [hname, h.name_eq hout hmem hu]
    rw [ht] at hentry
    cases hbefore : entry s.name st.mergedSubsets.nodes with
    | none =>
      rw [hbefore, Option.none_or] at hentry
      exact ⟨t, entry_mem hentry, htname⟩
    | some u =>
      rw [hbefore, Option.some_or] at hentry
      exact ⟨u, entry_mem hentry, h.name_eq hmerged hmem hbefore⟩

/-- On any names that are stored the comparison is a strict total order that agrees with equality, and no
extension is taken for another, exactly if the names are distinct; they always are when unknown extensions are
refused. -/
theorem tellsApart_iff_distinct (N : Set Name) (hN : ∀ n ∈ N, ∃ check, Storable check n) :
    (TellsApart N ∧ NeverIdentified N ↔ Distinct N) ∧ ((∀ n ∈ N, Storable true n) → Distinct N) := by
  have hparsed : ∀ n ∈ N, ParsedName n := by
    intro n hn
    obtain ⟨check, hstored⟩ := hN n hn
    exact hstored.parsed
  refine ⟨⟨fun h => h.1.distinct hparsed, fun h => ?_⟩, fun h => ⟨?_, ?_⟩⟩
  · have htells := h.tellsApart hparsed
    exact ⟨htells, htells.neverIdentified hparsed⟩
  · intro a ha
    exact (h a ha).good.secondInTable
  · intro a ha b _ hza _ hnone
    have hsecond := (h a ha).good.second hza
    omega

/-- Some strings of the linker and the disassembler. -/
def ldStores (arch : String) (n : String) : Bool :=
  (riscvParseSubset ⟨none, false⟩ (some arch.toList) {}).2.list.nodes.any (·.name = n.toList)

theorem storable_of_ldStores {arch n : String} (h : ldStores arch n = true) : Storable false n.toList := by
  obtain ⟨s, hs, hname⟩ := List.any_eq_true.mp h
  exact ⟨⟨none, false⟩, some arch.toList, rfl, s, hs, of_decide_eq_true hname⟩

/-- Two extensions that compare as equal; only the first of them is stored. -/
theorem zxa_zya_identified :
    Storable false "zxa".toList ∧ Storable false "zya".toList ∧ "zxa".toList ≠ "zya".toList ∧
      riscvCompareSubsets "zxa".toList "zya".toList = .eq ∧ ldStores "rv64i2p1_zxa1p0_zya2p0" "zya" = false ∧
      ¬ ∀ N : Set Name, (∀ n ∈ N, ∃ check, Storable check n) → TellsApart N := by
  obtain ⟨hzxa, hzya, hboth⟩ : ldStores "rv64i2p1_zxa1p0" "zxa" = true ∧ ldStores "rv64i2p1_zya2p0" "zya" = true ∧
      ldStores "rv64i2p1_zxa1p0_zya2p0" "zya" = false := by
    decide +kernel
  have hx : Storable false "zxa".toList := storable_of_ldStores hzxa
  have hy : Storable false "zya".toList := storable_of_ldStores hzya
  refine ⟨hx, hy, by decide, by decide, hboth, fun hall => ?_⟩
  have htells := hall {"zxa".toList, "zya".toList} (by
    rintro n (rfl | rfl)
    · exact ⟨false, hx⟩
    · exact ⟨false, hy⟩)
  have heq := (htells.eq "zxa".toList (.inl rfl) "zya".toList (.inr rfl)).mp (by decide)
  exact absurd heq (by decide)

/-- Two z extensions of the linker that are told apart. -/
theorem zba_zbb_tellsApart :
    TellsApart {"zba".toList, "zbb".toList} ∧ NeverIdentified {"zba".toList, "zbb".toList} := by
  refine (tellsApart_iff_distinct {"zba".toList, "zbb".toList} ?_).1.mpr ⟨?_, ?_⟩
  · obtain ⟨hzba, hzbb⟩ : ldStores "rv64i2p1_zba1p0" "zba" = true ∧ ldStores "rv64i2p1_zbb1p0" "zbb" = true := by
      decide +kernel
    rintro n (rfl | rfl)
    · exact ⟨false, storable_of_ldStores hzba⟩
    · exact ⟨false, storable_of_ldStores hzbb⟩
  · rintro n (rfl | rfl) <;> exact fun _ => by decide
  · rintro a (rfl | rfl) b _ _ _ hnone <;> exact absurd hnone (by decide)

end Order

end RiscvBinutils.Isa
