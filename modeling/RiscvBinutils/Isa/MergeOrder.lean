/-
Architecture attributes of a whole link (bfd/elfnn-riscv.c, `riscv_merge_attributes`): when the order of the
objects does not matter.
-/
import RiscvBinutils.Isa.MergeUnion

namespace RiscvBinutils.Isa

open Std RiscvBinutils.Base

/-! ## Linking -/

/-- The attribute of the output, which is `none` before the first object, and the static lists. -/
structure LinkState where
  out : Option (List Char) := none
  lists : MergeState := {}
  failed : Bool := false
  crashed : Bool := false
  deriving DecidableEq, Repr

/-- The part of `riscv_merge_attributes` for `Tag_RISCV_arch`, for objects that have it. -/
def riscvMergeAttributes (archSize : Nat) (st : LinkState) (inArch : List Char) : LinkState :=
  if st.crashed then st
  else
    match st.out with
    | none => { st with out := some inArch }
    | some outArch =>
      let r := riscvMergeArchAttrInfo archSize (some inArch) (some outArch) st.lists
      match r.1.result with
      | .crash => { st with crashed := true }
      | .null => { st with out := some [], lists := r.2, failed := true }
      | .arch s => { st with out := some s, lists := r.2 }

/-- Merge the attributes of all objects. -/
def mergeAll (archSize : Nat) (archs : List (List Char)) : LinkState := archs.foldl (riscvMergeAttributes archSize) {}

/-- The link fails at some step. -/
def LinkState.Fails (st : LinkState) : Prop := st.failed = true ∨ st.crashed = true

/-- Both links fail, or both succeed with strings that denote the same. -/
def SameOutcome (st st' : LinkState) : Prop :=
  (st.Fails ∧ st'.Fails) ∨ (¬st.Fails ∧ ¬st'.Fails ∧
    (st.out = st'.out ∨ ∃ out ∈ st.out, ∃ out' ∈ st'.out, (ldParse out).1 = (ldParse out').1 ∧
      (ldParse out).2.xlen = (ldParse out').2.xlen ∧ (ldParse out).2.list.nodes = (ldParse out').2.list.nodes))

/-! ## Several lists -/

section Family

variable {l : SubsetList} {S : List SubsetList} {K : List Subset}

/-- What a list contributes to the string of a merge. -/
def contributed (l : SubsetList) : List Subset := versioned (included l.nodes)

/-- The nodes are the newest that the lists contribute. -/
structure Combines (S : List SubsetList) (K : List Subset) : Prop where
  sound : ∀ w ∈ K, ∃ l ∈ S, w ∈ contributed l
  covers : ∀ l ∈ S, ∀ t ∈ contributed l, ∃ w ∈ K, w.name = t.name ∧ t.le w

theorem Subset.eq_of_le {s t : Subset} (hname : s.name = t.name) (h : s.le t) (h' : t.le s) : s = t := by
  obtain ⟨sn, sm, sk⟩ := s
  obtain ⟨tn, tm, tk⟩ := t
  unfold Subset.le at h h'
  dsimp only at *
  rw [hname, show sm = tm by omega, show sk = tk by omega]

/-- The lists decide what is combined. -/
theorem Combines.unique {K' : List Subset} (hK : Ordered riscvCompareSubsets Subset.name K)
    (hK' : Ordered riscvCompareSubsets Subset.name K') (h : Combines S K) (h' : Combines S K') : K = K' := by
  have hsub {K K' : List Subset} (hK : Ordered riscvCompareSubsets Subset.name K) (h : Combines S K)
      (h' : Combines S K') {w : Subset} (hw : w ∈ K) : w ∈ K' := by
    obtain ⟨l, hl, hwl⟩ := h.sound w hw
    obtain ⟨w', hw', hname, hle⟩ := h'.covers l hl w hwl
    obtain ⟨l', hl', hwl'⟩ := h'.sound w' hw'
    obtain ⟨w'', hw'', hname', hle'⟩ := h.covers l' hl' w' hwl'
    have hself : riscvCompareSubsets w''.name w.name = .eq := by
      rw [hname', hname]
      exact ReflCmp.compare_self
    rw [eq_of_compare hK hw'' hw hself] at hle'
    rw [Subset.eq_of_le hname.symm hle hle']
    exact hw'
  exact ordered_ext hK hK' fun w => ⟨hsub hK h h', hsub hK' h' h⟩

/-- What is implied without asking for the version of i is implied by one of the lists. -/
theorem Combines.implied_of (h : Combines S K) {n : Name} (hn : Implied none riscvImplicitSubsets K n)
    (hsplit : n ∉ splitNames) : ∃ l ∈ S, Implied none riscvImplicitSubsets (contributed l) n := by
  induction hn with
  | @base w hw =>
    obtain ⟨l, hl, hwl⟩ := h.sound w hw
    exact ⟨l, hl, .base hwl⟩
  | @row r hr _ _ ih =>
    obtain ⟨hsource, hforI, -⟩ := riscvImplicitSubsets_split r hr
    obtain ⟨l, hl, himp⟩ := ih hsource
    refine ⟨l, hl, .row hr himp ?_⟩
    cases hcheck : r.check with
    | always => rfl
    | forI => exact absurd (hforI hcheck).2 hsplit

theorem Combines.implied (h : Combines S K) (hl : l ∈ S) {n : Name}
    (hn : Implied none riscvImplicitSubsets (contributed l) n) (hsplit : n ∉ splitNames) :
    Implied none riscvImplicitSubsets K n := by
  induction hn with
  | @base t ht =>
    obtain ⟨w, hw, hname, -⟩ := h.covers l hl t ht
    exact hname ▸ .base hw
  | @row r hr _ _ ih =>
    obtain ⟨hsource, hforI, -⟩ := riscvImplicitSubsets_split r hr
    refine .row hr (ih hsource) ?_
    cases hcheck : r.check with
    | always => rfl
    | forI => exact absurd (hforI hcheck).2 hsplit

/-- What can be lost in a merge: the names it does not look for, and what they imply. -/
def lostNames : List Name :=
  [['g'], ['k'], ['z'], ['i'], ['m'], ['a'], ['f'], ['d'], "zicsr".toList, "zifencei".toList, "zmmul".toList]

theorem riscvImplicitSubsets_lost : ∀ r ∈ riscvImplicitSubsets, r.subsetName ∈ lostNames →
    r.implicitName ∈ lostNames := by
  decide +kernel

theorem mem_contributed {t : Subset} : t ∈ contributed l ↔ t ∈ included l.nodes ∧ t.unknown = false := mem_versioned

theorem LdList.has_of_implied (hl : LdList l) {n : Name} (hn : Implied none riscvImplicitSubsets (contributed l) n)
    (hsplit : n ∉ splitNames) : l.Has n := by
  obtain ⟨base, hbase⟩ := hl.nodes
  induction hn with
  | @base t ht => exact ⟨t, (included_sublist _).subset (mem_contributed.mp ht).1, rfl⟩
  | @row r hr _ _ ih =>
    obtain ⟨hsource, hforI, -⟩ := riscvImplicitSubsets_split r hr
    obtain ⟨t, ht, hname⟩ := ih hsource
    refine hbase.least.closed r hr t ht hname ?_
    cases hcheck : r.check with
    | always => rfl
    | forI => exact absurd (hforI hcheck).2 hsplit

/-- What cannot be lost is implied by what a list contributes. -/
theorem LdList.implied_of_has (hl : LdList l) {n : Name} (hn : l.Has n) (hlost : n ∉ lostNames) :
    Implied none riscvImplicitSubsets (contributed l) n := by
  obtain ⟨base, hbase⟩ := hl.nodes
  obtain ⟨t, ht, rfl⟩ := hn
  obtain ⟨himp, -⟩ := (hbase.closure t).mp ht
  generalize t.name = n at himp hlost
  have hletters : ∀ k ∈ skippedNames, k ∈ lostNames := by decide
  induction himp with
  | @base u hu =>
    have humem := hbase.least.kept u hu
    have hknown : u.unknown = false := hbase.baseKnown u hu fun hg => hlost (by rw [hg]; decide)
    refine .base (mem_contributed.mpr ⟨?_, hknown⟩)
    exact mem_included_of_not_skipped humem fun hskip => hlost (hletters _ hskip)
  | @row r hr _ hcheck ih =>
    have hsource : r.subsetName ∉ lostNames := fun hmem => hlost (riscvImplicitSubsets_lost r hr hmem)
    refine .row hr (ih hsource) ?_
    cases hforI : r.check with
    | always => rfl
    | forI =>
      have hi := ((riscvImplicitSubsets_split r hr).2.1 hforI).1
      exact absurd (by rw [hi]; decide) hsource

/-- Nodes without a version have names of the table. -/
theorem LdList.good_of_unknown (hl : LdList l) {t : Subset} (ht : t ∈ l.nodes) (hunknown : t.unknown = true) :
    GoodName t.name := by
  obtain ⟨base, hbase⟩ := hl.nodes
  by_cases hg : t.name = ['g']
  · rw [hg]
    decide
  · obtain ⟨himp, hrec⟩ := (hbase.closure t).mp ht
    generalize hn : t.name = n at himp
    cases himp with
    | @base u hu =>
      have hut : u = t := hbase.least.unique u (hbase.least.kept u hu) t ht hn.symm
      rw [← hut, hbase.baseKnown u hu (by rw [hut]; exact hg)] at hunknown
      cases hunknown
    | @row r hr _ _ => exact (riscvImplicitSubsets_good r hr).2

end Family

/-! ## Lists that can be merged in any order -/

section Compatible

variable {xlen : Nat} {S : List SubsetList} {K : List Subset}

/-- Lists of accepted strings with one base. -/
structure Compatible (xlen : Nat) (S : List SubsetList) : Prop where
  lists : ∀ l ∈ S, LdList l
  free : ∀ l ∈ S, ConflictFree l xlen
  base : ∀ l ∈ S, ∀ l' ∈ S, SameBase l l'

/-- No order of the lists leads to a string that is wrong: no version is negative, of any two bases one has a
version, the names are told apart, and what the lists contribute is not in conflict. -/
structure OrderFree (S : List SubsetList) : Prop where
  nonneg : ∀ l ∈ S, NoNegative l.nodes
  known : S.Pairwise fun l l' => KnownBase l ∨ KnownBase l'
  apart : ∀ l ∈ S, ∀ l' ∈ S, Apart l l'
  zfinx : ∀ l ∈ S, ∀ l' ∈ S, ¬(Implied none riscvImplicitSubsets (contributed l) "zfinx".toList ∧
    Implied none riscvImplicitSubsets (contributed l') ['f'])
  xtheadvector : ∀ l ∈ S, ∀ l' ∈ S, ¬(Implied none riscvImplicitSubsets (contributed l) "xtheadvector".toList ∧
    Implied none riscvImplicitSubsets (contributed l') ['v'])

theorem OrderFree.sublist {S' : List SubsetList} (h : OrderFree S) (hsub : S'.Sublist S) : OrderFree S' :=
  ⟨fun l hl => h.nonneg l (hsub.subset hl), h.known.sublist hsub,
    fun l hl l' hl' => h.apart l (hsub.subset hl) l' (hsub.subset hl'),
    fun l hl l' hl' => h.zfinx l (hsub.subset hl) l' (hsub.subset hl'),
    fun l hl l' hl' => h.xtheadvector l (hsub.subset hl) l' (hsub.subset hl')⟩

theorem OrderFree.perm {S' : List SubsetList} (h : OrderFree S) (hperm : S.Perm S') : OrderFree S' := by
  have hsub : ∀ l ∈ S', l ∈ S := fun l hl => hperm.mem_iff.mpr hl
  exact ⟨fun l hl => h.nonneg l (hsub l hl), (hperm.pairwise_iff fun h => h.symm).mp h.known,
    fun l hl l' hl' => h.apart l (hsub l hl) l' (hsub l' hl'),
    fun l hl l' hl' => h.zfinx l (hsub l hl) l' (hsub l' hl'),
    fun l hl l' hl' => h.xtheadvector l (hsub l hl) l' (hsub l' hl')⟩

/-- A name that is read back, other than zicsr and zifencei, is in one of the lists. -/
theorem Combines.has_of (h : Combines S K) (hS : Compatible xlen S) {n : Name}
    (hn : Implied none riscvImplicitSubsets K n) (hsplit : n ∉ splitNames) : ∃ l ∈ S, l.Has n := by
  obtain ⟨l, hl, himp⟩ := h.implied_of hn hsplit
  exact ⟨l, hl, (hS.lists l hl).has_of_implied himp hsplit⟩

/-- What is read back has no conflict. -/
theorem Combines.conflictFree (h : Combines S K) (hord : Ordered riscvCompareSubsets Subset.name K)
    (hnames : ∀ t ∈ K, ParsedName t.name) (hS : Compatible xlen S) (hfree : OrderFree S) {L : SubsetList}
    (hc : IsClosure none riscvImplicitSubsets K L.nodes) : ConflictFree L xlen where
  eh := by
    rintro ⟨he, hh⟩
    rw [hc.has_iff hord hnames] at he hh
    obtain ⟨l, hl, hle⟩ := h.has_of hS he (by decide)
    obtain ⟨l', hl', hlh⟩ := h.has_of hS hh (by decide)
    obtain ⟨s, hs, s', hs', hbase, hsame⟩ := hS.base l hl l' hl'
    have hse : s.name = ['e'] := by
      by_contra hne
      exact not_has_e (hS.lists l hl).parsed hs (hbase.resolve_left hne) hle
    exact (hS.free l' hl').eh ⟨⟨s', List.mem_of_mem_head? hs', hsame.trans hse⟩, hlh⟩
  q := by
    intro w hw hname hx
    have hq : Implied none riscvImplicitSubsets K ['q'] := hname ▸ ((hc w).mp hw).1
    obtain ⟨l, hl, t, ht, htname⟩ := h.has_of hS hq (by decide)
    have hnew := (hS.free l hl).q t ht htname hx
    have htinc := mem_included_of_not_skipped ht (by rw [htname]; decide)
    have htk : t.unknown = false := by
      by_contra hunknown
      obtain ⟨hmajor, -⟩ := ((hS.lists l hl).version htinc).ok.of_unknown (Bool.not_eq_false _ ▸ hunknown)
      omega
    obtain ⟨v, hv, hvname, hle⟩ := h.covers l hl t (mem_contributed.mpr ⟨htinc, htk⟩)
    have hrec := ((hc w).mp hw).2
    rw [hname, ← htname, ← hvname, recorded_of_mem hord hv] at hrec
    rw [hrec]
    unfold Subset.le at hle
    omega
  zcf := by
    rintro ⟨hz, hx⟩
    rw [hc.has_iff hord hnames] at hz
    obtain ⟨l, hl, hlz⟩ := h.has_of hS hz (by decide)
    exact (hS.free l hl).zcf ⟨hlz, hx⟩
  zfinx := by
    rintro ⟨hz, hf⟩
    rw [hc.has_iff hord hnames] at hz hf
    obtain ⟨l, hl, hlz⟩ := h.implied_of hz (by decide)
    obtain ⟨l', hl', hlf⟩ := h.implied_of hf (by decide)
    exact hfree.zfinx l hl l' hl' ⟨hlz, hlf⟩
  xtheadvector := by
    rintro ⟨hx, hv⟩
    rw [hc.has_iff hord hnames] at hx hv
    obtain ⟨l, hl, hlx⟩ := h.implied_of hx (by decide)
    obtain ⟨l', hl', hlv⟩ := h.implied_of hv (by decide)
    exact hfree.xtheadvector l hl l' hl' ⟨hlx, hlv⟩
  zvl := by
    rintro ⟨t, ht, hzvl⟩
    have hkeep {k : Name} {names : List Name} (hk : ∀ n ∈ names, k.isPrefixOf n = false) {n : Name}
        (hn : k.isPrefixOf n = true) : n ∉ names := by
      intro hmem
      rw [hk n hmem] at hn
      cases hn
    obtain ⟨l, hl, u, hu, huname⟩ := h.has_of hS ((hc t).mp ht).1 (hkeep (by decide) hzvl)
    obtain ⟨v, hv, hzve⟩ := (hS.free l hl).zvl ⟨u, hu, huname ▸ hzvl⟩
    have himp := (hS.lists l hl).implied_of_has ⟨v, hv, rfl⟩ (hkeep (by decide) hzve)
    have hread := h.implied hl himp (hkeep (by decide) hzve)
    obtain ⟨w, hw, hwname⟩ := (hc.has_iff hord hnames).mpr hread
    exact ⟨w, hw, hwname ▸ hzve⟩

variable {l l' m : SubsetList}

theorem combines_self (l : SubsetList) : Combines [l] (contributed l) where
  sound := fun _ hw => ⟨l, List.mem_singleton.mpr rfl, hw⟩
  covers := by
    intro l' hl' t ht
    rw [List.mem_singleton.mp hl'] at ht
    exact ⟨t, ht, rfl, t.le_refl⟩

/-- One merge combines what the two lists contribute. -/
theorem MergedFrom.combines (h : MergedFrom l l' m) (hapart : Apart l l') (hS : Combines S (contributed l')) :
    Combines (l :: S) (versioned m.nodes) where
  sound := by
    intro w hw
    obtain ⟨hwm, hwk⟩ := mem_versioned.mp hw
    obtain ⟨⟨u, hu, huname⟩, t, ht, hcmp, hmajor, hminor⟩ := h.origin hwm
    rw [← huname] at hcmp
    have hname : t.name = w.name := (ht.eq_of_compare h hapart hu hcmp).trans huname
    have htw : t = w := by
      obtain ⟨tn, tm, tk⟩ := t
      cases hname
      cases hmajor
      cases hminor
      rfl
    rw [htw] at ht
    rcases ht with ht | ht
    · exact ⟨l, List.mem_cons_self, mem_contributed.mpr ⟨ht, hwk⟩⟩
    · obtain ⟨x, hx, hwx⟩ := hS.sound w (mem_contributed.mpr ⟨ht, hwk⟩)
      exact ⟨x, List.mem_cons_of_mem l hx, hwx⟩
  covers := by
    intro x hx t ht
    rcases List.mem_cons.mp hx with rfl | hx
    · obtain ⟨htinc, htk⟩ := mem_contributed.mp ht
      exact h.written hapart (.inl htinc) htk
    · obtain ⟨u, hu, huname, hle⟩ := hS.covers x hx t ht
      obtain ⟨huinc, huk⟩ := mem_contributed.mp hu
      obtain ⟨w, hw, hwname, hle'⟩ := h.written hapart (.inr huinc) huk
      exact ⟨w, hw, hwname.trans huname, Subset.le_trans hle hle'⟩

/-- The names of the next list are told apart from those of what is already combined. -/
theorem Combines.apart (hS : Combines S (contributed l')) (hl : LdList l) (hl' : LdList l')
    (hapart : ∀ x ∈ S, Apart l x) : Apart l l' := by
  intro t ht u hu hcmp
  cases huk : u.unknown with
  | true =>
    have hgood := hl'.good_of_unknown ((included_sublist _).subset hu) huk
    have hparsed := hl.parsed.names t ((included_sublist _).subset ht)
    exact (hgood.eq_of_compare hparsed (OrientedCmp.eq_symm hcmp)).symm
  | false =>
    obtain ⟨x, hx, hux⟩ := hS.sound u (mem_contributed.mpr ⟨hu, huk⟩)
    exact hapart x hx t ht u (mem_contributed.mp hux).1 hcmp

/-- What is read back contributes what was written, and starts with the base. -/
theorem MergedFrom.read (h : MergedFrom l l' m) (hknown : KnownBase m) {L : SubsetList} (hL : L.Parsed)
    (hc : IsClosure none riscvImplicitSubsets (versioned m.nodes) L.nodes) :
    contributed L = versioned m.nodes ∧ ∃ w ∈ m.nodes.head?, w ∈ L.nodes.head? := by
  obtain ⟨w, rest, hcons, ⟨s, hs, hsname, -⟩, ⟨s', hs', hsname', -⟩, hwname, hrest⟩ := h.head
  have hw : w ∈ m.nodes.head? := by rw [hcons]; rfl
  have hwK := MergedFrom.base_written hknown hw
  have hkept : ∀ t ∈ versioned m.nodes, t ∈ L.nodes := fun t ht =>
    (hc t).mpr ⟨.base ht, (recorded_of_mem h.versioned_ordered ht).symm⟩
  obtain ⟨b, restL, hconsL, hbname⟩ := hL.head_base (hkept w hwK) hwname
  have hordL := hL.ordered
  rw [hconsL] at hordL
  have hbmem : b ∈ L.nodes := by rw [hconsL]; exact List.mem_cons_self
  have hwb : w = b := by
    rcases hwname with hwe | hwi
    · exact eq_head_of_e hordL (hconsL ▸ hkept w hwK) hwe
    · -- an e that is read back would stand in one of the lists
      have hbi : b.name = ['i'] := by
        refine hbname.resolve_left fun hbe => ?_
        obtain ⟨himp, -⟩ := (hc b).mp hbmem
        rw [hbe] at himp
        generalize hn : (['e'] : Name) = n at himp
        cases himp with
        | @base v hv =>
          obtain ⟨⟨t, ht, htname⟩, -⟩ := h.origin (mem_versioned.mp hv).1
          have hte : t.name = ['e'] := htname.trans hn.symm
          rcases ht.mem with ht | ht
          · exact not_has_e h.left.parsed hs (hsname.symm.trans hwi) ⟨t, ht, hte⟩
          · exact not_has_e h.right.parsed hs' (hsname'.symm.trans hwi) ⟨t, ht, hte⟩
        | @row r hr _ _ => exact (riscvImplicitSubsets_base r hr).1 hn.symm
      refine eq_of_compare hL.ordered (hkept w hwK) hbmem ?_
      rw [hwi, hbi]
      exact ReflCmp.compare_self
  refine ⟨?_, w, hw, by rw [hconsL, hwb]; rfl⟩
  have hordC : Ordered riscvCompareSubsets Subset.name (contributed L) :=
    (hL.ordered.sublist (included_sublist _)).sublist List.filter_sublist
  refine ordered_ext hordC h.versioned_ordered fun t => ?_
  rw [mem_contributed]
  constructor
  · rintro ⟨htinc, htk⟩
    have hrec := ((hc t).mp ((included_sublist _).subset htinc)).2
    cases hentry : Isa.entry t.name (versioned m.nodes) with
    | some u =>
      rw [recorded, hentry, Option.getD_some] at hrec
      rw [hrec]
      exact entry_mem hentry
    | none =>
      rw [recorded, hentry, Option.getD_none, impliedEntry_none] at hrec
      rw [hrec] at htk
      cases htk
  · intro ht
    obtain ⟨htm, htk⟩ := mem_versioned.mp ht
    refine ⟨?_, htk⟩
    rw [hconsL]
    refine (mem_included_or (hconsL ▸ hkept t ht)).resolve_right ?_
    rintro ⟨htrest, hskip⟩
    rw [hcons] at htm
    rcases List.mem_cons.mp htm with rfl | htm
    · have hlt := (List.pairwise_cons.mp hordL).1 t htrest
      rw [hwb, show riscvCompareSubsets b.name b.name = .eq from ReflCmp.compare_self] at hlt
      cases hlt
    · exact hrest t htm hskip

/-- What is read back has no negative version. -/
theorem MergedFrom.read_nonneg (h : MergedFrom l l' m) {L : SubsetList}
    (hc : IsClosure none riscvImplicitSubsets (versioned m.nodes) L.nodes) : NoNegative L.nodes := by
  intro t ht htk
  have hrec := ((hc t).mp ht).2
  cases hentry : Isa.entry t.name (versioned m.nodes) with
  | some u =>
    rw [recorded, hentry, Option.getD_some] at hrec
    obtain ⟨hum, huk⟩ := mem_versioned.mp (entry_mem hentry)
    rw [hrec]
    exact (h.version hum).nonneg huk
  | none =>
    rw [recorded, hentry, Option.getD_none, impliedEntry_none] at hrec
    rw [hrec] at htk
    cases htk

end Compatible

/-! ## The whole link -/

section Link

variable {archSize : Nat} {archs : List (List Char)} {arch out : List Char} {st : LinkState}

/-- The lists of some strings. -/
def ldLists (archs : List (List Char)) : List SubsetList := archs.map fun arch => (ldParse arch).2.list

/-- Strings that can be merged: all are accepted, for this emulation and with the same base. -/
structure Mergeable (archSize : Nat) (archs : List (List Char)) : Prop where
  accepted : ∀ arch ∈ archs, (ldParse arch).1 = true ∧ (ldParse arch).2.xlen = archSize
  base : ∀ l ∈ ldLists archs, ∀ l' ∈ ldLists archs, SameBase l l'

theorem mem_ldLists {l : SubsetList} : l ∈ ldLists archs ↔ ∃ arch ∈ archs, (ldParse arch).2.list = l := List.mem_map

theorem Mergeable.compatible (h : Mergeable archSize archs) (hneg : ∀ l ∈ ldLists archs, NoNegative l.nodes) :
    Compatible archSize (ldLists archs) where
  lists := by
    intro l hl
    obtain ⟨arch, ha, rfl⟩ := mem_ldLists.mp hl
    exact (ldParse_accepted (h.accepted arch ha).1 (hneg _ hl)).1
  free := by
    intro l hl
    obtain ⟨arch, ha, rfl⟩ := mem_ldLists.mp hl
    obtain ⟨haccepted, hxlen⟩ := h.accepted arch ha
    obtain ⟨hparsed, -, hnone, -⟩ := ldParse_nodes haccepted
    rw [hxlen] at hnone
    exact (noConflict_iff hparsed).mp hnone
  base := h.base

/-- The string stands for all strings merged so far. -/
structure Represents (archSize : Nat) (archs : List (List Char)) (out : List Char) : Prop where
  accepted : (ldParse out).1 = true
  xlen : (ldParse out).2.xlen = archSize
  nonneg : NoNegative (ldParse out).2.list.nodes
  combines : Combines (ldLists archs) (contributed (ldParse out).2.list)
  base : ∀ l ∈ ldLists archs, SameBase l (ldParse out).2.list

theorem SameBase.trans {l₁ l₂ l₃ : SubsetList} (h : SameBase l₁ l₂) (h' : SameBase l₂ l₃) : SameBase l₁ l₃ := by
  obtain ⟨s, hs, t, ht, hname, hsame⟩ := h
  obtain ⟨t', ht', u, hu, -, hsame'⟩ := h'
  rw [Option.mem_unique ht' ht] at hsame'
  exact ⟨s, hs, u, hu, hname, hsame'.trans hsame⟩

theorem SameBase.symm {l₁ l₂ : SubsetList} (h : SameBase l₁ l₂) : SameBase l₂ l₁ := by
  obtain ⟨s, hs, t, ht, hname, hsame⟩ := h
  exact ⟨t, ht, s, hs, hsame ▸ hname, hsame.symm⟩

/-- A base with a version gives the merged one a version. -/
theorem Side.knownBase_of {l l' m L : SubsetList} (h : MergedFrom l l' m) (hL : Side l l' m L) (hknown : KnownBase L) :
    KnownBase m := by
  obtain ⟨s, hs, w, hw, -, hle⟩ := hL.head
  intro v hv
  rw [Option.mem_unique hv hw]
  have hsmem : s ∈ included L.nodes := by
    obtain ⟨rest, hrest⟩ := List.head?_eq_some_iff.mp hs
    rw [hrest]
    exact List.mem_cons_self
  exact hle.known (hL.list.version hsmem) (h.version (List.mem_of_mem_head? hw)) (hknown s hs)

/-- One merge: the new string stands for one more. -/
theorem Represents.merge (h : Represents archSize archs out) (hm : Mergeable archSize (arch :: archs))
    (hfree : OrderFree (ldLists (arch :: archs))) (hne : archs ≠ [])
    (hknown : KnownBase (ldParse arch).2.list ∨ KnownBase (ldParse out).2.list) :
    ∃ s, (riscvMergeArchAttrInfo archSize (some arch) (some out) {}).1.result = .arch s ∧
      (riscvMergeArchAttrInfo archSize (some arch) (some out) {}).2 = {} ∧ Represents archSize (arch :: archs) s ∧
      KnownBase (ldParse s).2.list ∧
      IsClosure none riscvImplicitSubsets (contributed (ldParse s).2.list) (ldParse s).2.list.nodes := by
  obtain ⟨haccepted, hxlen⟩ := hm.accepted arch List.mem_cons_self
  have harch : (ldParse arch).2.list ∈ ldLists (arch :: archs) := List.mem_cons_self
  have hneg := hfree.nonneg _ harch
  obtain ⟨hleft, -, hx⟩ := ldParse_accepted haccepted hneg
  have hright := (ldParse_accepted h.accepted h.nonneg).1
  have hbase : SameBase (ldParse arch).2.list (ldParse out).2.list := by
    obtain ⟨a, rest, rfl⟩ := List.exists_cons_of_ne_nil hne
    have ha : (ldParse a).2.list ∈ ldLists (a :: rest) := List.mem_cons_self
    exact (hm.base _ harch _ (List.mem_cons_of_mem _ ha)).trans (h.base _ ha)
  obtain ⟨m, hmerged, hresult⟩ := merge_of_sameBase haccepted h.accepted hneg h.nonneg hxlen h.xlen hbase
  have hapart : Apart (ldParse arch).2.list (ldParse out).2.list :=
    h.combines.apart hleft hright fun x hx => hfree.apart _ harch x (List.mem_cons_of_mem _ hx)
  have hknown : KnownBase m :=
    hknown.elim (hmerged.leftSide.knownBase_of hmerged) (hmerged.rightSide.knownBase_of hmerged)
  rw [hxlen] at hx
  obtain ⟨st, hparse, hparsed, hc, hxst, -⟩ := hmerged.parse hknown hx
  have hcombines : Combines (ldLists (arch :: archs)) (versioned m.nodes) := hmerged.combines hapart h.combines
  have hconflict : NoConflict st.list st.xlen := by
    rw [hxst]
    exact (noConflict_iff hparsed).mpr
      (hcombines.conflictFree hmerged.versioned_ordered hmerged.versioned_names
        (hm.compatible hfree.nonneg) hfree hc)
  rw [riscvParseCheckConflicts_of_noConflict hconflict] at hparse
  obtain ⟨hread, w, hw, hwL⟩ := hmerged.read hknown hparsed hc
  refine ⟨_, hresult, Merges.released ⟨haccepted, h.accepted, hxlen, h.xlen, hbase⟩, ⟨?_, ?_, ?_, ?_, ?_⟩, ?_, ?_⟩
  · rw [hparse]
  · rw [hparse, hxst]
  · rw [hparse]
    exact hmerged.read_nonneg hc
  · rw [hparse, hread]
    exact hcombines
  · intro l hl
    have hlbase := hm.base l hl _ harch
    rw [hparse]
    obtain ⟨s, hs, s', hs', hname, hsame⟩ := hlbase
    obtain ⟨t, ht, w', hw', hwname, -⟩ := hmerged.leftSide.head
    rw [Option.mem_unique hw' hw, Option.mem_unique ht hs'] at hwname
    exact ⟨s, hs, w, hwL, hname, hwname.trans hsame⟩
  · rw [hparse]
    intro v hv
    rw [Option.mem_unique hv hwL]
    exact hknown w hw
  · rw [hparse, hread]
    exact hc

theorem represents_self (h : Mergeable archSize [out]) (hneg : NoNegative (ldParse out).2.list.nodes) :
    Represents archSize [out] out := by
  obtain ⟨haccepted, hxlen⟩ := h.accepted out List.mem_cons_self
  refine ⟨haccepted, hxlen, hneg, combines_self _, fun l hl => ?_⟩
  exact h.base l hl _ List.mem_cons_self

/-- A merge that returns a string was possible. -/
theorem mergeable_of_result (hout : archs = [out] ∨ (Mergeable archSize archs ∧ Represents archSize archs out))
    (hneg : ∀ l ∈ ldLists archs, NoNegative l.nodes)
    {s : List Char} (h : (riscvMergeArchAttrInfo archSize (some arch) (some out) {}).1.result = .arch s) :
    Mergeable archSize (arch :: archs) ∧ Represents archSize archs out := by
  have haccepted : (ldParse arch).1 = true ∧ (ldParse out).1 = true := by
    rw [riscvMergeArchAttrInfo_some] at h
    dsimp only at h
    split at h
    · cases h
    · rename_i hin
      split at h
      · cases h
      · rename_i hout
        exact ⟨Bool.not_eq_false _ ▸ hin, Bool.not_eq_false _ ▸ hout⟩
  rw [merge_of_accepted haccepted.1 haccepted.2] at h
  obtain ⟨hbase, hxio, hxin⟩ := sameBase_of_mergeParsed (ldParse_nodes haccepted.1).1
    (ldParse_nodes haccepted.2).1 h
  have hprefix : Mergeable archSize archs ∧ Represents archSize archs out := by
    rcases hout with rfl | hrep
    · have hself : Mergeable archSize [out] := by
        refine ⟨?_, ?_⟩
        · intro a ha
          rw [List.mem_singleton.mp ha]
          exact ⟨haccepted.2, hxio.trans hxin⟩
        · intro l hl l' hl'
          rw [List.mem_singleton.mp hl, List.mem_singleton.mp hl']
          exact hbase.symm.trans hbase
      exact ⟨hself, represents_self hself (hneg _ List.mem_cons_self)⟩
    · exact hrep
  refine ⟨⟨?_, ?_⟩, hprefix.2⟩
  · intro a ha
    rcases List.mem_cons.mp ha with rfl | ha
    · exact ⟨haccepted.1, hxin⟩
    · exact hprefix.1.accepted a ha
  · -- everything has the base of the output
    have hwith : ∀ l ∈ ldLists (arch :: archs), SameBase l (ldParse out).2.list := by
      intro l hl
      rcases List.mem_cons.mp hl with rfl | hl
      · exact hbase
      · exact hprefix.2.base l hl
    intro l hl l' hl'
    exact (hwith l hl).trans (hwith l' hl').symm

/-- The state after some strings were merged without a failure, the last one first. -/
structure Linked (archSize : Nat) (archs : List (List Char)) (st : LinkState) : Prop where
  nonempty : archs ≠ []
  lists : st.lists = {}
  failed : st.failed = false
  crashed : st.crashed = false
  out : ∃ out ∈ st.out, archs = [out] ∨ (Mergeable archSize archs ∧ Represents archSize archs out ∧
    KnownBase (ldParse out).2.list ∧
    IsClosure none riscvImplicitSubsets (contributed (ldParse out).2.list) (ldParse out).2.list.nodes)

theorem riscvMergeAttributes_fails (h : st.Fails) (arch : List Char) :
    (riscvMergeAttributes archSize st arch).Fails := by
  unfold riscvMergeAttributes
  split
  · exact h
  · rename_i hcrash
    have hfailed := h.resolve_right hcrash
    split
    · exact .inl hfailed
    · dsimp only
      split
      · exact .inr rfl
      · exact .inl rfl
      · exact .inl hfailed

theorem foldl_fails {rest : List (List Char)} (h : st.Fails) :
    (rest.foldl (riscvMergeAttributes archSize) st).Fails := by
  induction rest generalizing st with
  | nil => exact h
  | cons a rest ih => exact ih (riscvMergeAttributes_fails h a)

/-- One more object: the merge succeeds exactly if the strings can be merged. -/
theorem Linked.step (h : Linked archSize archs st) (hfree : OrderFree (ldLists (arch :: archs))) :
    (Linked archSize (arch :: archs) (riscvMergeAttributes archSize st arch) ∧ Mergeable archSize (arch :: archs)) ∨
      ((riscvMergeAttributes archSize st arch).Fails ∧ ¬Mergeable archSize (arch :: archs)) := by
  obtain ⟨out, hout, hrep⟩ := h.out
  have hrep' : archs = [out] ∨ (Mergeable archSize archs ∧ Represents archSize archs out) :=
    hrep.imp_right fun hr => ⟨hr.1, hr.2.1⟩
  have hneg : ∀ l ∈ ldLists archs, NoNegative l.nodes := fun l hl => hfree.nonneg l (List.mem_cons_of_mem _ hl)
  have hmerge (hm : Mergeable archSize (arch :: archs)) : ∃ s,
      (riscvMergeArchAttrInfo archSize (some arch) (some out) {}).1.result = .arch s ∧
      (riscvMergeArchAttrInfo archSize (some arch) (some out) {}).2 = {} ∧ Represents archSize (arch :: archs) s ∧
      KnownBase (ldParse s).2.list ∧
      IsClosure none riscvImplicitSubsets (contributed (ldParse s).2.list) (ldParse s).2.list.nodes := by
    refine Represents.merge ?_ hm hfree h.nonempty ?_
    rcases hrep' with rfl | hrep'
    · have hself : Mergeable archSize [out] :=
        ⟨fun a ha => hm.accepted a (List.mem_cons_of_mem arch ha), fun l hl l' hl' =>
          hm.base l (List.mem_cons_of_mem _ hl) l' (List.mem_cons_of_mem _ hl')⟩
      exact represents_self hself (hneg _ List.mem_cons_self)
    · exact hrep'.2
    rcases hrep with rfl | hrep
    · exact (List.pairwise_cons.mp hfree.known).1 _ (List.mem_singleton.mpr rfl)
    · exact .inr hrep.2.2.1
  rw [riscvMergeAttributes, h.crashed, if_neg (by decide), Option.mem_def.mp hout, h.lists]
  dsimp only
  cases hresult : (riscvMergeArchAttrInfo archSize (some arch) (some out) {}).1.result with
  | crash =>
    refine .inr ⟨.inr rfl, fun hm => ?_⟩
    obtain ⟨s, hs, -⟩ := hmerge hm
    rw [hresult] at hs
    cases hs
  | null =>
    refine .inr ⟨.inl rfl, fun hm => ?_⟩
    obtain ⟨s, hs, -⟩ := hmerge hm
    rw [hresult] at hs
    cases hs
  | arch s =>
    have hm := (mergeable_of_result hrep' hneg hresult).1
    obtain ⟨s', hs', hlists, hreps, hknown, hclosure⟩ := hmerge hm
    rw [hresult] at hs'
    cases hs'
    exact .inl ⟨⟨List.cons_ne_nil _ _, hlists, h.failed, rfl, s, rfl, .inr ⟨hm, hreps, hknown, hclosure⟩⟩, hm⟩

theorem Mergeable.subset {archs' : List (List Char)} (h : Mergeable archSize archs)
    (hsub : ∀ a ∈ archs', a ∈ archs) : Mergeable archSize archs' := by
  have hlists : ∀ l ∈ ldLists archs', l ∈ ldLists archs := by
    intro l hl
    obtain ⟨a, ha, rfl⟩ := mem_ldLists.mp hl
    exact mem_ldLists.mpr ⟨a, hsub a ha, rfl⟩
  exact ⟨fun a ha => h.accepted a (hsub a ha), fun l hl l' hl' => h.base l (hlists l hl) l' (hlists l' hl')⟩

theorem Combines.congr {S S' : List SubsetList} {K : List Subset} (h : Combines S K) (hS : ∀ l, l ∈ S ↔ l ∈ S') :
    Combines S' K := by
  refine ⟨fun w hw => ?_, fun l hl => h.covers l ((hS l).mpr hl)⟩
  obtain ⟨l, hl, hwl⟩ := h.sound w hw
  exact ⟨l, (hS l).mp hl, hwl⟩

/-- The whole link succeeds exactly if the strings can be merged. -/
theorem Linked.run {rest : List (List Char)} (h : Linked archSize archs st)
    (hfree : OrderFree (ldLists (rest.reverse ++ archs))) (hmany : archs.length = 1 → rest ≠ []) :
    (Linked archSize (rest.reverse ++ archs) (rest.foldl (riscvMergeAttributes archSize) st) ∧
        Mergeable archSize (rest.reverse ++ archs)) ∨
      ((rest.foldl (riscvMergeAttributes archSize) st).Fails ∧ ¬Mergeable archSize (rest.reverse ++ archs)) := by
  induction rest generalizing archs st with
  | nil =>
    obtain ⟨out, -, hrep⟩ := h.out
    rcases hrep with rfl | hrep
    · exact absurd rfl (hmany rfl)
    · exact .inl ⟨h, hrep.1⟩
  | cons a rest ih =>
    have hperm : (a :: rest).reverse ++ archs = rest.reverse ++ (a :: archs) := by
      rw [List.reverse_cons, List.append_assoc, List.singleton_append]
    rw [hperm] at hfree ⊢
    have hsub : ∀ b ∈ a :: archs, b ∈ rest.reverse ++ (a :: archs) := fun b hb => List.mem_append_right _ hb
    rcases h.step (hfree.sublist ((List.sublist_append_right _ _).map _)) with ⟨hlinked, -⟩ | ⟨hfails, hnot⟩
    · refine ih hlinked hfree fun hlen => ?_
      have hpos := List.length_pos_of_ne_nil h.nonempty
      rw [List.length_cons] at hlen
      omega
    · rw [List.foldl_cons]
      exact .inr ⟨foldl_fails hfails, fun hm => hnot (hm.subset hsub)⟩

theorem SameOutcome.refl (st : LinkState) : SameOutcome st st := by
  by_cases h : st.Fails
  · exact .inl ⟨h, h⟩
  · exact .inr ⟨h, h, .inl rfl⟩

variable (archSize) in
theorem mergeAll_cons {first : List Char} {rest : List (List Char)} (hne : rest ≠ [])
    (hfree : OrderFree (ldLists (first :: rest))) :
    (Linked archSize (rest.reverse ++ [first]) (mergeAll archSize (first :: rest)) ∧
        Mergeable archSize (rest.reverse ++ [first])) ∨
      ((mergeAll archSize (first :: rest)).Fails ∧ ¬Mergeable archSize (rest.reverse ++ [first])) := by
  have hstart : Linked archSize [first] (riscvMergeAttributes archSize {} first) :=
    ⟨List.cons_ne_nil _ _, rfl, rfl, rfl, first, rfl, .inl rfl⟩
  refine hstart.run (hfree.perm (List.Perm.map _ ?_)) fun _ => hne
  exact (List.perm_append_singleton first rest).symm.trans ((List.reverse_perm rest).symm.append_right [first])

/-- The order of the objects does not matter when no merge goes wrong. -/
theorem mergeAll_perm (archSize : Nat) (archs archs' : List (List Char)) (hperm : archs.Perm archs')
    (hfree : OrderFree (ldLists archs)) : SameOutcome (mergeAll archSize archs) (mergeAll archSize archs') := by
  have hfree' : OrderFree (ldLists archs') := hfree.perm (hperm.map _)
  by_cases hshort : archs.length ≤ 1
  · -- there is only one order
    have heq : archs = archs' := by
      match archs, hshort with
      | [], _ => exact hperm.nil_eq
      | [a], _ => exact List.singleton_perm.mp hperm
    rw [heq]
    exact SameOutcome.refl _
  · have hlen := hperm.length_eq
    obtain ⟨a, rest, rfl⟩ := List.exists_cons_of_length_pos (show 0 < archs.length by omega)
    obtain ⟨a', rest', rfl⟩ := List.exists_cons_of_length_pos (show 0 < archs'.length by omega)
    rw [List.length_cons] at hshort
    rw [List.length_cons, List.length_cons] at hlen
    have hne : rest ≠ [] := List.ne_nil_of_length_pos (by omega)
    have hne' : rest' ≠ [] := List.ne_nil_of_length_pos (by omega)
    have hmem (b : List Char) : b ∈ rest.reverse ++ [a] ↔ b ∈ rest'.reverse ++ [a'] := by
      have hself {c : List Char} {cs : List (List Char)} : b ∈ cs.reverse ++ [c] ↔ b ∈ c :: cs := by
        rw [List.mem_append, List.mem_reverse, List.mem_singleton, List.mem_cons, or_comm]
      rw [hself, hself]
      exact hperm.mem_iff
    rcases mergeAll_cons archSize hne hfree with ⟨hlinked, hm⟩ | ⟨hfails, hnot⟩
    · rcases mergeAll_cons archSize hne' hfree' with ⟨hlinked', hm'⟩ | ⟨hfails', hnot'⟩
      · obtain ⟨out, hout, hrep⟩ := hlinked.out
        obtain ⟨out', hout', hrep'⟩ := hlinked'.out
        have hmany {c out : List Char} {cs : List (List Char)} (hcs : cs ≠ []) : cs.reverse ++ [c] ≠ [out] := by
          intro h
          have := congrArg List.length h
          have hpos := List.length_pos_of_ne_nil hcs
          rw [List.length_append, List.length_reverse, List.length_singleton, List.length_singleton] at this
          omega
        obtain ⟨-, hr, -, hc⟩ := hrep.resolve_left (hmany hne)
        obtain ⟨-, hr', -, hc'⟩ := hrep'.resolve_left (hmany hne')
        have hsame : ∀ l, l ∈ ldLists (rest.reverse ++ [a]) ↔ l ∈ ldLists (rest'.reverse ++ [a']) := by
          intro l
          rw [mem_ldLists, mem_ldLists]
          exact exists_congr fun b => and_congr_left fun _ => hmem b
        have hL := (ldParse_accepted hr.accepted hr.nonneg).1
        have hL' := (ldParse_accepted hr'.accepted hr'.nonneg).1
        have hK : contributed (ldParse out).2.list = contributed (ldParse out').2.list :=
          Combines.unique (hL.ordered.sublist List.filter_sublist) (hL'.ordered.sublist List.filter_sublist)
            (hr.combines.congr hsame) hr'.combines
        refine .inr ⟨?_, ?_, .inr ⟨out, hout, out', hout', ?_, ?_, ?_⟩⟩
        · rintro (h | h)
          · rw [hlinked.failed] at h
            cases h
          · rw [hlinked.crashed] at h
            cases h
        · rintro (h | h)
          · rw [hlinked'.failed] at h
            cases h
          · rw [hlinked'.crashed] at h
            cases h
        · rw [hr.accepted, hr'.accepted]
        · rw [hr.xlen, hr'.xlen]
        · refine ordered_ext hL.parsed.ordered hL'.parsed.ordered fun t => ?_
          rw [hc t, hc' t, hK]
      · exact absurd (hm.subset fun b hb => (hmem b).mpr hb) hnot'
    · rcases mergeAll_cons archSize hne' hfree' with ⟨-, hm'⟩ | ⟨hfails', -⟩
      · exact absurd (hm'.subset fun b hb => (hmem b).mp hb) hnot
      · exact .inl ⟨hfails, hfails'⟩

/-- Multiplication and atomics, in either order. -/
theorem mergeAll_m_a : SameOutcome (mergeAll 64 ["rv64i2p1_m2p0".toList, "rv64i2p1_a2p1".toList])
    (mergeAll 64 ["rv64i2p1_a2p1".toList, "rv64i2p1_m2p0".toList]) := by
  -- one evaluation, so that each string is read once
  obtain ⟨hneg, hknown, hapart, haccepted, hnone⟩ :
      (∀ l ∈ ldLists ["rv64i2p1_m2p0".toList, "rv64i2p1_a2p1".toList], NoNegative l.nodes) ∧
      (ldLists ["rv64i2p1_m2p0".toList, "rv64i2p1_a2p1".toList]).Pairwise (fun l l' => KnownBase l ∨ KnownBase l') ∧
      (∀ l ∈ ldLists ["rv64i2p1_m2p0".toList, "rv64i2p1_a2p1".toList],
        ∀ l' ∈ ldLists ["rv64i2p1_m2p0".toList, "rv64i2p1_a2p1".toList], Apart l l') ∧
      (∀ arch ∈ ["rv64i2p1_m2p0".toList, "rv64i2p1_a2p1".toList], (ldParse arch).1 = true) ∧
      ∀ l ∈ ldLists ["rv64i2p1_m2p0".toList, "rv64i2p1_a2p1".toList],
        ¬l.Has "zfinx".toList ∧ ¬l.Has "xtheadvector".toList := by
    unfold KnownBase Apart
    decide +kernel
  refine mergeAll_perm 64 _ _ (List.Perm.swap _ _ _) ⟨hneg, hknown, hapart, ?_, ?_⟩
  all_goals
    rintro l hl l' - ⟨hz, -⟩
    have hlist : LdList l := by
      obtain ⟨arch, harch, rfl⟩ := mem_ldLists.mp hl
      exact (ldParse_accepted (haccepted arch harch) (hneg _ hl)).1
  · exact (hnone l hl).1 (hlist.has_of_implied hz (by decide))
  · exact (hnone l hl).2 (hlist.has_of_implied hz (by decide))

/-- zfinx and f are only found to be in conflict when a third object follows. -/
theorem mergeAll_zfinx_f : ¬∀ archs archs' : List (List Char), archs.Perm archs' →
    SameOutcome (mergeAll 64 archs) (mergeAll 64 archs') := by
  intro h
  have hsame := h ["rv64i2p1_zfinx1p0".toList, "rv64i2p1_f2p2".toList, "rv64i2p1".toList]
    ["rv64i2p1_zfinx1p0".toList, "rv64i2p1".toList, "rv64i2p1_f2p2".toList] (.cons _ (.swap _ _ _))
  have hfails : (mergeAll 64 ["rv64i2p1_zfinx1p0".toList, "rv64i2p1_f2p2".toList, "rv64i2p1".toList]).failed = true ∧
      (mergeAll 64 ["rv64i2p1_zfinx1p0".toList, "rv64i2p1".toList, "rv64i2p1_f2p2".toList]).failed = false ∧
      (mergeAll 64 ["rv64i2p1_zfinx1p0".toList, "rv64i2p1".toList, "rv64i2p1_f2p2".toList]).crashed = false := by
    decide +kernel
  rcases hsame with ⟨-, hfailed | hcrashed⟩ | ⟨hnot, -⟩
  · rw [hfails.2.1] at hfailed
    cases hfailed
  · rw [hfails.2.2] at hcrashed
    cases hcrashed
  · exact hnot (.inl hfails.1)

end Link

end RiscvBinutils.Isa
