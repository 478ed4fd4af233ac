/-
When a merge of two architecture attributes is the union of the two (bfd/elfnn-riscv.c,
`riscv_merge_arch_attr_info`).
-/
import RiscvBinutils.Isa.Merged

namespace RiscvBinutils.Isa

open Std RiscvBinutils.Base

/-! ## Union -/

section Union

variable {l l' m : SubsetList}

/-- The list has an extension of this name. -/
def SubsetList.Has (l : SubsetList) (n : Name) : Prop := ∃ t ∈ l.nodes, t.name = n

instance (l : SubsetList) (n : Name) : Decidable (l.Has n) := inferInstanceAs (Decidable (∃ t ∈ l.nodes, _))

/-- One of the lists has it. -/
def EitherHas (l l' : SubsetList) (n : Name) : Prop := l.Has n ∨ l'.Has n

instance (l l' : SubsetList) (n : Name) : Decidable (EitherHas l l' n) := inferInstanceAs (Decidable (_ ∨ _))

/-- The string that the merge returns is accepted and has exactly the extensions of both, each with the newer
version if both have one. -/
def IsUnion (archSize : Nat) (inArch outArch : List Char) : Prop :=
  ∃ s, (riscvMergeArchAttrInfo archSize (some inArch) (some outArch) {}).1.result = .arch s ∧
    (ldParse s).1 = true ∧
    (∀ n, (ldParse s).2.list.Has n ↔ EitherHas (ldParse inArch).2.list (ldParse outArch).2.list n) ∧
    ∀ t ∈ (ldParse inArch).2.list.nodes, ∀ u ∈ (ldParse outArch).2.list.nodes, ∀ w ∈ (ldParse s).2.list.nodes,
      t.name = w.name → u.name = w.name → t.unknown = false → u.unknown = false →
        t.le w ∧ u.le w ∧ (w = t ∨ w = u)

/-- What two lists need for their merge to be the union. -/
structure Unites (l l' : SubsetList) : Prop where
  base : SameBase l l'
  /-- The merge looks for neither g, k nor z. -/
  merged : ¬EitherHas l l' ['g'] ∧ ¬EitherHas l l' ['k'] ∧ ¬EitherHas l l' ['z']
  /-- The order tells the names apart. -/
  apart : ∀ t ∈ l.nodes, ∀ u ∈ l'.nodes, riscvCompareSubsets t.name u.name = .eq → t.name = u.name
  /-- The extensions of one list are in no conflict with those of the other. -/
  zfinx : ¬(EitherHas l l' "zfinx".toList ∧ EitherHas l l' ['f'])
  xtheadvector : ¬(EitherHas l l' "xtheadvector".toList ∧ EitherHas l l' ['v'])
  /-- The i after e is not written: it has a version in one list at most. -/
  baseE : l.Has ['e'] → ∀ t ∈ l.nodes, ∀ u ∈ l'.nodes, t.name = ['i'] → u.name = ['i'] →
    t.unknown = true ∨ u.unknown = true
  /-- What an i before 2.1 implies has a version, or both i are that old, or something else implies it. -/
  baseI : l.Has ['i'] → ¬l.Has ['e'] → ∀ r ∈ riscvImplicitSubsets, r.check = .forI →
    EitherHas l l' r.implicitName →
      (∃ t, (t ∈ l.nodes ∨ t ∈ l'.nodes) ∧ t.name = r.implicitName ∧ t.unknown = false) ∨
      (∀ t, t ∈ l.nodes ∨ t ∈ l'.nodes → t.name = ['i'] → r.check.holds t = true) ∨
      ∃ r' ∈ riscvImplicitSubsets, r'.check = .always ∧ r'.implicitName = r.implicitName ∧
        EitherHas l l' r'.subsetName

/-! ## The rows for i -/

/-- What only an i before 2.1 implies without being told. -/
def splitNames : List Name := ["zicsr".toList, "zifencei".toList]

theorem riscvImplicitSubsets_split : ∀ r ∈ riscvImplicitSubsets, r.subsetName ∉ splitNames ∧
    (r.check = .forI → r.subsetName = ['i'] ∧ r.implicitName ∈ splitNames) ∧
    r.implicitName ∉ [['g'], ['k'], ['z']] := by
  decide +kernel

theorem ImplicitCheck.holds_of_le {c : ImplicitCheck} {t w : Subset} (h : t.le w) (hw : c.holds w = true) :
    c.holds t = true := by
  cases c with
  | always => rfl
  | forI =>
    unfold ImplicitCheck.holds at *
    rw [decide_eq_true_iff] at *
    unfold Subset.le at h
    omega

theorem impliedEntry_none (n : Name) : impliedEntry none n = ⟨n, riscvUnknownVersion, riscvUnknownVersion⟩ := rfl

end Union

/-! ## What is read back -/

section ReadBack

variable {l l' m L : SubsetList}

/-- The order tells the names of what takes part apart. -/
def Apart (l l' : SubsetList) : Prop :=
  ∀ t ∈ included l.nodes, ∀ u ∈ included l'.nodes, riscvCompareSubsets t.name u.name = .eq → t.name = u.name

theorem Unites.apart_included (hu : Unites l l') : Apart l l' := fun t ht u hmem =>
  hu.apart t ((included_sublist _).subset ht) u ((included_sublist _).subset hmem)

theorem mem_included_or {s t : Subset} {rest : List Subset} (ht : t ∈ s :: rest) :
    t ∈ included (s :: rest) ∨ (t ∈ rest ∧ t.name ∈ skippedNames) := by
  by_cases hskip : t.name ∈ skippedNames
  · rcases List.mem_cons.mp ht with rfl | ht
    · exact .inl List.mem_cons_self
    · exact .inr ⟨ht, hskip⟩
  · rcases List.mem_cons.mp ht with rfl | ht
    · exact .inl List.mem_cons_self
    · exact .inl (List.mem_cons_of_mem s (List.mem_filter.mpr ⟨ht, decide_eq_true hskip⟩))

theorem Partakes.eq_of_compare (h : MergedFrom l l' m) (hapart : Apart l l') {t u : Subset} (ht : Partakes l l' t)
    (hu : Partakes l l' u) (hcmp : riscvCompareSubsets t.name u.name = .eq) : t.name = u.name := by
  rcases ht with ht | ht <;> rcases hu with hu | hu
  · rw [Isa.eq_of_compare h.left.ordered ht hu hcmp]
  · exact hapart t ht u hu hcmp
  · exact (hapart u hu t ht (OrientedCmp.eq_symm hcmp)).symm
  · rw [Isa.eq_of_compare h.right.ordered ht hu hcmp]

/-- What takes part with a version is written under its name. -/
theorem MergedFrom.written (h : MergedFrom l l' m) (hapart : Apart l l') {t : Subset} (ht : Partakes l l' t)
    (hknown : t.unknown = false) : ∃ w ∈ versioned m.nodes, w.name = t.name ∧ t.le w := by
  obtain ⟨w, hw, hcmp, hle⟩ := h.newer ht
  obtain ⟨⟨u, hu, huname⟩, -⟩ := h.origin hw
  refine ⟨w, mem_versioned.mpr ⟨hw, hle.known (ht.version h) (h.version hw) hknown⟩, ?_, hle⟩
  rw [← huname] at hcmp ⊢
  exact hu.eq_of_compare h hapart ht hcmp

/-- One of the two lists, seen from the merged one. -/
structure Side (l l' m L : SubsetList) : Prop where
  list : LdList L
  part : ∀ t ∈ included L.nodes, Partakes l l' t
  head : ∃ s ∈ L.nodes.head?, ∃ w ∈ m.nodes.head?, w.name = s.name ∧ s.le w

theorem MergedFrom.leftSide (h : MergedFrom l l' m) : Side l l' m l := by
  obtain ⟨w, rest, hcons, ⟨s, hs, hname, hle⟩, -⟩ := h.head
  exact ⟨h.left, fun t ht => .inl ht, s, hs, w, by rw [hcons]; rfl, hname, hle⟩

theorem MergedFrom.rightSide (h : MergedFrom l l' m) : Side l l' m l' := by
  obtain ⟨w, rest, hcons, -, ⟨s, hs, hname, hle⟩, -⟩ := h.head
  exact ⟨h.right, fun t ht => .inr ht, s, hs, w, by rw [hcons]; rfl, hname, hle⟩

/-- The base is written. -/
theorem MergedFrom.base_written (hknown : KnownBase m) {w : Subset} (hw : w ∈ m.nodes.head?) :
    w ∈ versioned m.nodes :=
  mem_versioned.mpr ⟨List.mem_of_mem_head? hw, hknown w hw⟩

/-- With base e an i is implied again. -/
theorem implied_i_of_e {K : List Subset} {w : Subset} (hw : w ∈ K) (hname : w.name = ['e']) :
    Implied none riscvImplicitSubsets K ['i'] :=
  .row e_implies_i (hname ▸ .base hw : Implied none riscvImplicitSubsets K ['e']) rfl

/-- Only an i after e does not take part. -/
theorem Side.included_or (hL : Side l l' m L) (hno : ¬L.Has ['g'] ∧ ¬L.Has ['k'] ∧ ¬L.Has ['z']) {t : Subset}
    (ht : t ∈ L.nodes) :
    t ∈ included L.nodes ∨ (t.name = ['i'] ∧ ∃ w ∈ m.nodes.head?, w.name = ['e']) := by
  obtain ⟨s, hs, w, hw, hname, -⟩ := hL.head
  obtain ⟨rest, hrest⟩ := List.head?_eq_some_iff.mp hs
  have hmem := ht
  rw [hrest] at hmem ⊢
  rcases mem_included_or hmem with hinc | ⟨htrest, hskip⟩
  · exact .inl hinc
  · have hi : t.name = ['i'] := by
      rcases List.mem_cons.mp hskip with hi | hskip
      · exact hi
      · rcases List.mem_cons.mp hskip with hg | hskip
        · exact absurd ⟨t, ht, hg⟩ hno.1
        · rcases List.mem_cons.mp hskip with hk | hz
          · exact absurd ⟨t, ht, hk⟩ hno.2.1
          · exact absurd ⟨t, ht, List.mem_singleton.mp hz⟩ hno.2.2
    have hord := hL.list.parsed.ordered
    rw [hrest] at hord
    have hlt := (List.pairwise_cons.mp hord).1 t htrest
    rw [hi] at hlt
    have hse := eq_e_of_lt_i (hL.list.parsed.names s (List.mem_of_mem_head? hs)) hlt
    exact .inr ⟨hi, w, hw, hname.trans hse⟩

variable (h : MergedFrom l l' m) (hapart : Apart l l') (hknown : KnownBase m) (hL : Side l l' m L)
  (hno : ¬L.Has ['g'] ∧ ¬L.Has ['k'] ∧ ¬L.Has ['z'])

include h hapart hknown hL hno

theorem Side.implied_known {t : Subset} (ht : t ∈ L.nodes) (htk : t.unknown = false) :
    Implied none riscvImplicitSubsets (versioned m.nodes) t.name := by
  rcases hL.included_or hno ht with hinc | ⟨hi, w, hw, hwe⟩
  · obtain ⟨v, hv, hvname, -⟩ := h.written hapart (hL.part t hinc) htk
    exact hvname ▸ .base hv
  · rw [hi]
    exact implied_i_of_e (MergedFrom.base_written hknown hw) hwe

/-- What a list implies without asking for the version of i is implied again. -/
theorem Side.implied_other {base : List Subset} (hbase : Nodes riscvRpsLd base L.nodes) {n : Name}
    (hn : Implied none riscvImplicitSubsets base n) (hsplit : n ∉ splitNames) :
    Implied none riscvImplicitSubsets (versioned m.nodes) n := by
  induction hn with
  | @base u hu =>
    have humem := hbase.least.kept u hu
    exact hL.implied_known h hapart hknown hno humem (hbase.baseKnown u hu fun hg => hno.1 ⟨u, humem, hg⟩)
  | @row r hr _ _ ih =>
    obtain ⟨hsource, hforI, -⟩ := riscvImplicitSubsets_split r hr
    have halways : r.check = .always := by
      cases hcheck : r.check with
      | always => rfl
      | forI => exact absurd (hforI hcheck).2 hsplit
    exact .row hr (ih hsource) (by rw [halways]; rfl)

theorem Side.implied_has {n : Name} (hn : L.Has n) (hsplit : n ∉ splitNames) :
    Implied none riscvImplicitSubsets (versioned m.nodes) n := by
  obtain ⟨base, hbase⟩ := hL.list.nodes
  obtain ⟨t, ht, rfl⟩ := hn
  exact hL.implied_other h hapart hknown hno hbase ((hbase.closure t).mp ht).1 hsplit

end ReadBack

/-! ## The condition is enough -/

section Enough

variable {l l' m : SubsetList}

theorem Unites.not_has_left (hu : Unites l l') : ¬l.Has ['g'] ∧ ¬l.Has ['k'] ∧ ¬l.Has ['z'] :=
  ⟨fun hg => hu.merged.1 (.inl hg), fun hk => hu.merged.2.1 (.inl hk), fun hz => hu.merged.2.2 (.inl hz)⟩

theorem Unites.not_has_right (hu : Unites l l') : ¬l'.Has ['g'] ∧ ¬l'.Has ['k'] ∧ ¬l'.Has ['z'] :=
  ⟨fun hg => hu.merged.1 (.inr hg), fun hk => hu.merged.2.1 (.inr hk), fun hz => hu.merged.2.2 (.inr hz)⟩

/-- Without g the base has a version, in each list and in the merged one. -/
theorem Side.knownBase {L : SubsetList} (h : MergedFrom l l' m) (hL : Side l l' m L) (hg : ¬L.Has ['g']) :
    KnownBase m := by
  obtain ⟨s, hs, w, hw, -, hle⟩ := hL.head
  obtain ⟨base, hbase⟩ := hL.list.nodes
  obtain ⟨rest, hrest⟩ := List.head?_eq_some_iff.mp hs
  have hsmem : s ∈ included L.nodes := by
    rw [hrest]
    exact List.mem_cons_self
  have hsok := hL.list.version hsmem
  have hsk : s.unknown = false := by
    have hwithout : WithoutG (s :: rest) := by
      rintro ⟨t, ht, hname⟩
      exact absurd ⟨t, hrest ▸ ht, hname⟩ hg
    rw [hrest] at hbase
    refine hbase.head_known ?_ hwithout
    obtain ⟨w', rest', hcons, -, -, hwname, -⟩ := h.head
    rw [hcons] at hw
    cases hw
    obtain ⟨s', hs', w'', hw'', hname', -⟩ := hL.head
    rw [hcons] at hw''
    cases hw''
    rw [Option.mem_unique hs hs', ← hname']
    exact hwname
  intro v hv
  rw [Option.mem_unique hv hw]
  exact hle.known hsok (h.version (List.mem_of_mem_head? hw)) hsk

/-- A list whose base is i has no e. -/
theorem not_has_e (hl : l.Parsed) {s : Subset} (hs : s ∈ l.nodes.head?) (hi : s.name = ['i']) : ¬l.Has ['e'] := by
  rintro ⟨t, ht, hname⟩
  obtain ⟨rest, hrest⟩ := List.head?_eq_some_iff.mp hs
  have hord := hl.ordered
  rw [hrest] at ht hord
  rw [eq_head_of_e hord ht hname, hi] at hname
  exact absurd hname (by decide)

/-- With base e the i is recorded without a version. -/
theorem MergedFrom.recorded_i (h : MergedFrom l l' m) {w : Subset} (hw : w ∈ m.nodes.head?) (he : w.name = ['e']) :
    recorded none (versioned m.nodes) ['i'] = ⟨['i'], riscvUnknownVersion, riscvUnknownVersion⟩ := by
  obtain ⟨w', rest, hcons, -, -, -, hrest⟩ := h.head
  rw [hcons] at hw
  cases hw
  have hgood : GoodName ['i'] := by decide
  have hnone : Isa.entry ['i'] (versioned m.nodes) = none := by
    refine findKey_eq_none_iff.mpr fun t ht hcmp => ?_
    have htm := (mem_versioned.mp ht).1
    have hname := hgood.eq_of_compare (h.parsed.names t htm) (OrientedCmp.eq_symm hcmp)
    rw [hcons] at htm
    rcases List.mem_cons.mp htm with rfl | htm
    · rw [he] at hname
      exact absurd hname (by decide)
    · exact hrest t htm (by rw [← hname]; decide)
  rw [recorded, hnone, Option.getD_none, impliedEntry_none]

theorem MergedFrom.versioned_ordered (h : MergedFrom l l' m) :
    Ordered riscvCompareSubsets Subset.name (versioned m.nodes) := h.parsed.ordered.sublist List.filter_sublist

theorem Partakes.mem {t : Subset} (ht : Partakes l l' t) : t ∈ l.nodes ∨ t ∈ l'.nodes :=
  ht.imp (fun hl => (included_sublist _).subset hl) fun hl => (included_sublist _).subset hl

/-- A node with the key of a good name has that name. -/
theorem Partakes.eq_of_good (h : MergedFrom l l' m) {t : Subset} (ht : Partakes l l' t) {n : Name} (hn : GoodName n)
    (hcmp : riscvCompareSubsets t.name n = .eq) : t.name = n := by
  have hparsed : ParsedName t.name := ht.mem.elim (h.left.parsed.names t) (h.right.parsed.names t)
  exact (hn.eq_of_compare hparsed (OrientedCmp.eq_symm hcmp)).symm

theorem ImplicitCheck.holds_congr {c : ImplicitCheck} {t w : Subset} (hmajor : t.major = w.major)
    (hminor : t.minor = w.minor) : c.holds t = c.holds w := by
  cases c with
  | always => rfl
  | forI => rw [ImplicitCheck.holds, ImplicitCheck.holds, hmajor, hminor]

variable (h : MergedFrom l l' m) (hu : Unites l l') (hknown : KnownBase m)

include h hu hknown

theorem Unites.implied_known {t : Subset} (ht : t ∈ l.nodes ∨ t ∈ l'.nodes) (htk : t.unknown = false) :
    Implied none riscvImplicitSubsets (versioned m.nodes) t.name := by
  rcases ht with ht | ht
  · exact h.leftSide.implied_known h hu.apart_included hknown hu.not_has_left ht htk
  · exact h.rightSide.implied_known h hu.apart_included hknown hu.not_has_right ht htk

theorem Unites.implied_other {n : Name} (hn : EitherHas l l' n) (hsplit : n ∉ splitNames) :
    Implied none riscvImplicitSubsets (versioned m.nodes) n := by
  rcases hn with hn | hn
  · exact h.leftSide.implied_has h hu.apart_included hknown hu.not_has_left hn hsplit
  · exact h.rightSide.implied_has h hu.apart_included hknown hu.not_has_right hn hsplit

/-- What an old i has implied is implied again. -/
theorem Unites.implied_split {r : ImplicitSubset} (hr : r ∈ riscvImplicitSubsets) (hforI : r.check = .forI)
    (hhas : EitherHas l l' r.implicitName) :
    Implied none riscvImplicitSubsets (versioned m.nodes) r.implicitName := by
  obtain ⟨w, rest, hcons, ⟨s, hs, hsname, -⟩, -, hwname, -⟩ := h.head
  have hw : w ∈ m.nodes.head? := by rw [hcons]; rfl
  have hwK := MergedFrom.base_written hknown hw
  have hsub := ((riscvImplicitSubsets_split r hr).2.1 hforI).1
  rcases hwname with hwe | hwi
  · refine .row hr (hsub ▸ implied_i_of_e hwK hwe) ?_
    rw [hsub, h.recorded_i hw hwe, hforI]
    rfl
  · have hsi : s.name = ['i'] := hsname.symm.trans hwi
    have hsmem := List.mem_of_mem_head? hs
    rcases hu.baseI ⟨s, hsmem, hsi⟩ (not_has_e h.left.parsed hs hsi) r hr hforI hhas with
      ⟨t, ht, htname, htk⟩ | hold | ⟨r', hr', halways, hname', hhas'⟩
    · exact htname ▸ hu.implied_known h hknown ht htk
    · -- the version of the base comes from one of the two
      obtain ⟨-, t, ht, hcmp, hmajor, hminor⟩ := h.origin (mem_versioned.mp hwK).1
      have hti := ht.eq_of_good h (by decide) (hwi ▸ hcmp)
      have hrec : recorded none (versioned m.nodes) w.name = w := recorded_of_mem h.versioned_ordered hwK
      refine .row hr (hsub ▸ hwi ▸ .base hwK) ?_
      rw [hsub, ← hwi, hrec, ← ImplicitCheck.holds_congr hmajor hminor]
      exact hold t ht.mem hti
    · rw [← hname']
      exact .row hr' (hu.implied_other h hknown hhas' (riscvImplicitSubsets_split r' hr').1) (by rw [halways]; rfl)

/-- Whatever one of the lists has is implied by what is written. -/
theorem Unites.implied {n : Name} (hn : EitherHas l l' n) :
    Implied none riscvImplicitSubsets (versioned m.nodes) n := by
  -- along the last row that demands the name
  have hside {L : SubsetList} (hL : Side l l' m L) (hno : ¬L.Has ['g'] ∧ ¬L.Has ['k'] ∧ ¬L.Has ['z'])
      (hL' : L.Has n) : Implied none riscvImplicitSubsets (versioned m.nodes) n := by
    obtain ⟨base, hbase⟩ := hL.list.nodes
    obtain ⟨t, ht, rfl⟩ := hL'
    have himp := ((hbase.closure t).mp ht).1
    generalize t.name = k at himp hn
    cases himp with
    | @base u hu' =>
      have humem := hbase.least.kept u hu'
      exact hL.implied_known h hu.apart_included hknown hno humem (hbase.baseKnown u hu' fun hg => hno.1 ⟨u, humem, hg⟩)
    | @row r hr hsource hcheck =>
      cases hforI : r.check with
      | always =>
        have hnsplit := (riscvImplicitSubsets_split r hr).1
        exact .row hr (hL.implied_other h hu.apart_included hknown hno hbase hsource hnsplit) (by rw [hforI]; rfl)
      | forI => exact hu.implied_split h hknown hr hforI hn
  rcases id hn with hl | hl
  · exact hside h.leftSide hu.not_has_left hl
  · exact hside h.rightSide hu.not_has_right hl

omit hknown in
/-- An old i in one of the lists brings what it implies. -/
theorem Unites.has_split {r : ImplicitSubset} (hr : r ∈ riscvImplicitSubsets) (hforI : r.check = .forI)
    (hcheck : r.check.holds (recorded none (versioned m.nodes) ['i']) = true) (hknown : KnownBase m) :
    EitherHas l l' r.implicitName := by
  obtain ⟨w, rest, hcons, ⟨s, hs, hsname, hsle⟩, ⟨s', hs', hsname', -⟩, hwname, -⟩ := h.head
  have hw : w ∈ m.nodes.head? := by rw [hcons]; rfl
  have hsub := ((riscvImplicitSubsets_split r hr).2.1 hforI).1
  obtain ⟨base, hbase⟩ := h.left.nodes
  obtain ⟨base', hbase'⟩ := h.right.nodes
  have hsmem := List.mem_of_mem_head? hs
  have hsmem' := List.mem_of_mem_head? hs'
  rcases hwname with hwe | hwi
  · -- with base e, the i of one list has no version
    obtain ⟨t, ht, hti⟩ := hbase.least.closed _ e_implies_i s hsmem (hsname.symm.trans hwe) rfl
    obtain ⟨u, hmem, hui⟩ := hbase'.least.closed _ e_implies_i s' hsmem' (hsname'.symm.trans hwe) rfl
    have hold {v : Subset} (hv : VersionOk v.major v.minor) (hvu : v.unknown = true) : r.check.holds v = true := by
      obtain ⟨hmajor, -⟩ := hv.of_unknown hvu
      rw [hforI, ImplicitCheck.holds, decide_eq_true_iff]
      omega
    rcases hu.baseE ⟨s, hsmem, hsname.symm.trans hwe⟩ t ht u hmem hti hui with htu | huu
    · exact .inl (hbase.least.closed r hr t ht (hti.trans hsub.symm) (hold (hbase.ok t ht).version htu))
    · exact .inr (hbase'.least.closed r hr u hmem (hui.trans hsub.symm) (hold (hbase'.ok u hmem).version huu))
  · have hwK := MergedFrom.base_written hknown hw
    have hrec : recorded none (versioned m.nodes) w.name = w := recorded_of_mem h.versioned_ordered hwK
    rw [← hwi, hrec] at hcheck
    have hsi : s.name = r.subsetName := hsname.symm.trans (hwi.trans hsub.symm)
    exact .inl (hbase.least.closed r hr s hsmem hsi (ImplicitCheck.holds_of_le hsle hcheck))

/-- Nothing else is implied. -/
theorem Unites.has_of_implied {n : Name} (hn : Implied none riscvImplicitSubsets (versioned m.nodes) n) :
    EitherHas l l' n := by
  obtain ⟨base, hbase⟩ := h.left.nodes
  obtain ⟨base', hbase'⟩ := h.right.nodes
  induction hn with
  | @base w hw =>
    obtain ⟨⟨t, ht, htname⟩, -⟩ := h.origin (mem_versioned.mp hw).1
    exact ht.mem.imp (fun hl => ⟨t, hl, htname⟩) fun hl => ⟨t, hl, htname⟩
  | @row r hr _ hcheck ih =>
    cases hforI : r.check with
    | always =>
      rcases ih with ⟨t, ht, htname⟩ | ⟨t, ht, htname⟩
      · exact .inl (hbase.least.closed r hr t ht htname (by rw [hforI]; rfl))
      · exact .inr (hbase'.least.closed r hr t ht htname (by rw [hforI]; rfl))
    | forI =>
      rw [((riscvImplicitSubsets_split r hr).2.1 hforI).1] at hcheck
      exact hu.has_split h hr hforI hcheck hknown

end Enough

/-! ## Conflicts -/

section Conflict

variable {l l' m : SubsetList} {xlen : Nat}

/-- The combinations that `riscv_parse_check_conflicts` allows. -/
structure ConflictFree (l : SubsetList) (xlen : Nat) : Prop where
  eh : ¬(l.Has ['e'] ∧ l.Has ['h'])
  q : ∀ t ∈ l.nodes, t.name = ['q'] → xlen < 64 → ¬(t.major < 2 ∨ (t.major = 2 ∧ t.minor < 2))
  zcf : ¬(l.Has "zcf".toList ∧ 32 < xlen)
  zfinx : ¬(l.Has "zfinx".toList ∧ l.Has ['f'])
  xtheadvector : ¬(l.Has "xtheadvector".toList ∧ l.Has ['v'])
  zvl : (∃ t ∈ l.nodes, "zvl".toList.isPrefixOf t.name = true) → ∃ t ∈ l.nodes, "zve".toList.isPrefixOf t.name = true

theorem and_eq_false_iff {a b : Bool} : (a && b) = false ↔ ¬(a = true ∧ b = true) := by
  rw [← Bool.and_eq_true, Bool.not_eq_true]

theorem noConflict_iff (hl : l.Parsed) : NoConflict l xlen ↔ ConflictFree l xlen := by
  have hsupports {n : Name} (hn : GoodName n) : l.supports n = true ↔ l.Has n := hl.supports_iff hn
  have hand {n k : Name} (hn : GoodName n) (hk : GoodName k) :
      (l.supports n && l.supports k) = false ↔ ¬(l.Has n ∧ l.Has k) := by
    rw [and_eq_false_iff, hsupports hn, hsupports hk]
  have hzcf : (l.supports "zcf".toList && decide (32 < xlen)) = false ↔ ¬(l.Has "zcf".toList ∧ 32 < xlen) := by
    rw [and_eq_false_iff, hsupports (by decide), decide_eq_true_iff]
  have hq : conflictQ l xlen = false ↔
      ∀ t ∈ l.nodes, t.name = ['q'] → xlen < 64 → ¬(t.major < 2 ∨ (t.major = 2 ∧ t.minor < 2)) := by
    have hgood : GoodName ['q'] := by decide
    rw [conflictQ, ← Bool.not_eq_true, Option.any_eq_true]
    constructor
    · intro hnone t ht hname hx hold
      exact hnone ⟨t, (hl.find_eq_some_iff hgood t).mpr ⟨ht, hname⟩, decide_eq_true ⟨hold, hx⟩⟩
    · rintro hall ⟨t, hfind, hold⟩
      obtain ⟨ht, hname⟩ := (hl.find_eq_some_iff hgood t).mp hfind
      obtain ⟨hold, hx⟩ := of_decide_eq_true hold
      exact hall t ht hname hx hold
  have hzvl : conflictZvl l = false ↔ ((∃ t ∈ l.nodes, "zvl".toList.isPrefixOf t.name = true) →
      ∃ t ∈ l.nodes, "zve".toList.isPrefixOf t.name = true) := by
    rw [conflictZvl, decide_eq_false_iff_not, List.any_eq_true, not_and, Bool.not_eq_false, List.any_eq_true]
  have hforall : NoConflict l xlen ↔ ∀ c ∈ conflicts l xlen, c.1 = false := by
    rw [NoConflict, List.any_eq_false]
    exact forall₂_congr fun c _ => Bool.not_eq_true _ ▸ Iff.rfl
  rw [hforall, conflicts]
  simp only [List.forall_mem_cons, List.not_mem_nil, false_implies, implies_true, and_true]
  rw [hand (n := ['e']) (k := ['h']) (by decide) (by decide), hq, hzcf,
    hand (n := "zfinx".toList) (k := ['f']) (by decide) (by decide),
    hand (n := "xtheadvector".toList) (k := ['v']) (by decide) (by decide), hzvl]
  constructor
  · rintro ⟨h1, h2, h3, h4, h5, h6⟩
    exact ⟨h1, h2, h3, h4, h5, h6⟩
  · intro h
    exact ⟨h.1, h.2, h.3, h.4, h.5, h.6⟩

/-- The names in the closure. -/
theorem IsClosure.has_iff {K : List Subset} (hord : Ordered riscvCompareSubsets Subset.name K)
    (hnames : ∀ t ∈ K, ParsedName t.name) {l : SubsetList}
    (hc : IsClosure none riscvImplicitSubsets K l.nodes) {n : Name} :
    l.Has n ↔ Implied none riscvImplicitSubsets K n := by
  constructor
  · rintro ⟨t, ht, rfl⟩
    exact ((hc t).mp ht).1
  · intro hn
    have hK : SubsetList.Parsed { nodes := K, tail := K.getLast?.map (·.name) } := ⟨⟨hord, rfl⟩, hnames⟩
    cases id hn with
    | @base w hw => exact ⟨w, (hc w).mpr ⟨hn, (recorded_of_mem hord hw).symm⟩, rfl⟩
    | @row r hr _ _ =>
      have hgood := (riscvImplicitSubsets_good r hr).2
      exact ⟨_, hc.recorded_mem hK hgood hn, recorded_name hK hgood⟩

theorem MergedFrom.versioned_names (h : MergedFrom l l' m) : ∀ t ∈ versioned m.nodes, ParsedName t.name :=
  fun t ht => h.parsed.names t (mem_versioned.mp ht).1

/-- A node that takes part stands in the closure with the merged version. -/
theorem MergedFrom.closure_eq (h : MergedFrom l l' m) {L : SubsetList}
    (hc : IsClosure none riscvImplicitSubsets (versioned m.nodes) L.nodes) {v w : Subset} (hv : v ∈ versioned m.nodes)
    (hw : w ∈ L.nodes) (hname : v.name = w.name) : w = v := by
  have hrec := ((hc w).mp hw).2
  rw [← hname, recorded_of_mem h.versioned_ordered hv] at hrec
  exact hrec

theorem mem_included_of_not_skipped {t : Subset} (ht : t ∈ l.nodes) (hskip : t.name ∉ skippedNames) :
    t ∈ included l.nodes := by
  cases hnodes : l.nodes with
  | nil =>
    rw [hnodes] at ht
    cases ht
  | cons s rest =>
    rw [hnodes] at ht
    exact (mem_included_or ht).resolve_right fun h => hskip h.2

/-- The union of two lists without conflicts has none either. -/
theorem Unites.conflictFree (h : MergedFrom l l' m) (hu : Unites l l') (hl : ConflictFree l xlen)
    (hl' : ConflictFree l' xlen) {L : SubsetList}
    (hc : IsClosure none riscvImplicitSubsets (versioned m.nodes) L.nodes)
    (hhas : ∀ n, L.Has n ↔ EitherHas l l' n) : ConflictFree L xlen where
  eh := by
    rintro ⟨he, hh⟩
    obtain ⟨s, hs, s', hs', hname, hsame⟩ := h.base
    have hmem := List.mem_of_mem_head? hs
    have hmem' := List.mem_of_mem_head? hs'
    -- an e stands first in both lists
    have hse : s.name = ['e'] := by
      by_contra hne
      have hsi := hname.resolve_left hne
      rcases (hhas ['e']).mp he with hl | hl
      · exact not_has_e h.left.parsed hs hsi hl
      · exact not_has_e h.right.parsed hs' (hsame.trans hsi) hl
    rcases (hhas ['h']).mp hh with hlh | hlh
    · exact hl.eh ⟨⟨s, hmem, hse⟩, hlh⟩
    · exact hl'.eh ⟨⟨s', hmem', hsame.trans hse⟩, hlh⟩
  q := by
    intro w hw hname hx
    have hq {t : Subset} (ht : Partakes l l' t) (htname : t.name = ['q'])
        (hnew : ¬(t.major < 2 ∨ (t.major = 2 ∧ t.minor < 2))) : ¬(w.major < 2 ∨ (w.major = 2 ∧ w.minor < 2)) := by
      have htk : t.unknown = false := by
        by_contra hunknown
        obtain ⟨hmajor, -⟩ := (ht.ok h).version.of_unknown (Bool.not_eq_false _ ▸ hunknown)
        omega
      obtain ⟨v, hv, hvname, hle⟩ := h.written hu.apart_included ht htk
      rw [h.closure_eq hc hv hw (hvname.trans (htname.trans hname.symm))]
      unfold Subset.le at hle
      omega
    have hskip {t : Subset} (htname : t.name = ['q']) : t.name ∉ skippedNames := by
      rw [htname]
      decide
    rcases (hhas ['q']).mp ⟨w, hw, hname⟩ with ⟨t, ht, htname⟩ | ⟨t, ht, htname⟩
    · exact hq (.inl (mem_included_of_not_skipped ht (hskip htname))) htname (hl.q t ht htname hx)
    · exact hq (.inr (mem_included_of_not_skipped ht (hskip htname))) htname (hl'.q t ht htname hx)
  zcf := by
    rintro ⟨hhasz, hx⟩
    rcases (hhas _).mp hhasz with hz | hz
    · exact hl.zcf ⟨hz, hx⟩
    · exact hl'.zcf ⟨hz, hx⟩
  zfinx := by
    rintro ⟨hz, hf⟩
    exact hu.zfinx ⟨(hhas _).mp hz, (hhas _).mp hf⟩
  xtheadvector := by
    rintro ⟨hx, hv⟩
    exact hu.xtheadvector ⟨(hhas _).mp hx, (hhas _).mp hv⟩
  zvl := by
    rintro ⟨t, ht, hzvl⟩
    have hzve {L' : SubsetList} (hfree : ConflictFree L' xlen) (hL' : ∀ n, L'.Has n → L.Has n) (hhas' : L'.Has t.name) :
        ∃ t ∈ L.nodes, "zve".toList.isPrefixOf t.name = true := by
      obtain ⟨u, hu, huname⟩ := hhas'
      obtain ⟨v, hv, hzve⟩ := hfree.zvl ⟨u, hu, huname ▸ hzvl⟩
      obtain ⟨w, hw, hwname⟩ := hL' v.name ⟨v, hv, rfl⟩
      exact ⟨w, hw, hwname ▸ hzve⟩
    rcases (hhas t.name).mp ⟨t, ht, rfl⟩ with hlt | hlt
    · exact hzve hl (fun n hn => (hhas n).mpr (.inl hn)) hlt
    · exact hzve hl' (fun n hn => (hhas n).mpr (.inr hn)) hlt

end Conflict

/-! ## Exactly the union -/

section Exactly

variable {archSize : Nat} {inArch outArch : List Char} {l l' m : SubsetList}

/-- What the linker has after an accepted string. -/
theorem ldParse_nodes {arch : List Char} (h : (ldParse arch).1 = true) : (ldParse arch).2.list.Parsed ∧
    (∃ base, Nodes riscvRpsLd base (ldParse arch).2.list.nodes) ∧
    NoConflict (ldParse arch).2.list (ldParse arch).2.xlen ∧
    ((ldParse arch).2.xlen = 32 ∨ (ldParse arch).2.xlen = 64) := by
  have hparse : ldParse arch = (true, (ldParse arch).2) := Prod.ext h rfl
  obtain ⟨xlen, ts, hform, hst, hnone⟩ := riscvParseSubset_eq_true_iff.mp hparse
  have hl : ({} : ParseState).list.Parsed := .nil
  obtain ⟨hacc, hxlen⟩ := hform.accepted hl
  rw [← hst] at hacc hxlen
  refine ⟨hacc.parsed, hform.nodes hacc rfl, hnone, ?_⟩
  obtain ⟨p, hp, -⟩ := hform.form
  rw [hxlen]
  exact (archXlen_suffix hp).2

theorem ldParse_accepted {arch : List Char} (h : (ldParse arch).1 = true)
    (hneg : NoNegative (ldParse arch).2.list.nodes) : LdList (ldParse arch).2.list ∧
    NoConflict (ldParse arch).2.list (ldParse arch).2.xlen ∧
    ((ldParse arch).2.xlen = 32 ∨ (ldParse arch).2.xlen = 64) := by
  obtain ⟨hparsed, hnodes, hnone, hxlen⟩ := ldParse_nodes h
  exact ⟨⟨hparsed, hnodes, hneg⟩, hnone, hxlen⟩

/-- A string returned means that the two lists start with the same base. -/
theorem sameBase_of_mergeParsed (hl : l.Parsed) (hl' : l'.Parsed) {s : List Char} {xlenIn xlenOut : Nat}
    (h : (mergeParsed archSize inArch outArch xlenIn xlenOut { inSubsets := l, outSubsets := l' }).1 = .arch s) :
    SameBase l l' ∧ xlenOut = xlenIn ∧ xlenIn = archSize := by
  rw [mergeParsed] at h
  split at h
  · cases h
  · rename_i hx
    split at h
    · cases h
    · cases h
    · rename_i st hstd
      split at h
      · cases h
      · rename_i hsize
        refine ⟨?_, not_not.mp hx, not_not.mp hsize⟩
        unfold riscvMergeStdExt at hstd
        split at hstd
        · cases hstd
        · cases hstd
        · rename_i t rest u rest' hin hout
          have htn := hl.names t (by rw [show l.nodes = t :: rest from hin]; exact List.mem_cons_self)
          have hun := hl'.names u (by rw [show l'.nodes = u :: rest' from hout]; exact List.mem_cons_self)
          split at hstd
          · cases hstd
          · rename_i hbase
            split at hstd
            · cases hstd
            · split at hstd
              · cases hstd
              · rename_i hcase
                refine ⟨t, ?_, u, ?_, ?_, ?_⟩
                · rw [show l.nodes = t :: rest from hin]
                  rfl
                · rw [show l'.nodes = u :: rest' from hout]
                  rfl
                · rw [riscvIOrEP, decide_eq_false_iff_not, not_not, strcasecmp_eq_iff htn.lower (by decide),
                    strcasecmp_eq_iff htn.lower (by decide)] at hbase
                  exact hbase
                · rw [not_not, strcasecmp_eq_iff htn.lower hun.lower] at hcase
                  exact hcase.symm

/-- The merge of two accepted strings. -/
theorem merge_of_accepted (hin : (ldParse inArch).1 = true) (hout : (ldParse outArch).1 = true) :
    (riscvMergeArchAttrInfo archSize (some inArch) (some outArch) {}).1.result =
      (mergeParsed archSize inArch outArch (ldParse inArch).2.xlen (ldParse outArch).2.xlen
        { inSubsets := (ldParse inArch).2.list, outSubsets := (ldParse outArch).2.list }).1 := by
  rw [riscvMergeArchAttrInfo_some]
  dsimp only
  rw [hin, if_neg (by decide), hout, if_neg (by decide)]

/-- Two accepted strings with the same base are merged into a string for a list merged from theirs. -/
theorem merge_of_sameBase (hin : (ldParse inArch).1 = true) (hout : (ldParse outArch).1 = true)
    (hneg : NoNegative (ldParse inArch).2.list.nodes) (hneg' : NoNegative (ldParse outArch).2.list.nodes)
    (hxin : (ldParse inArch).2.xlen = archSize) (hxout : (ldParse outArch).2.xlen = archSize)
    (hbase : SameBase (ldParse inArch).2.list (ldParse outArch).2.list) :
    ∃ m, MergedFrom (ldParse inArch).2.list (ldParse outArch).2.list m ∧
      (riscvMergeArchAttrInfo archSize (some inArch) (some outArch) {}).1.result = .arch (riscvArchStr archSize m) := by
  have hleft := (ldParse_accepted hin hneg).1
  have hright := (ldParse_accepted hout hneg').1
  obtain ⟨m, hm, hentry, hmerge⟩ := mergeParsed_spec archSize hleft.parsed hright.parsed hbase
  refine ⟨m, ⟨hleft, hright, hbase, hm, hentry⟩, ?_⟩
  rw [merge_of_accepted hin hout, hxin, hxout, hmerge]

/-- The two nodes of one name are merged into the newer. -/
theorem MergedFrom.newest (h : MergedFrom l l' m) {t u : Subset} (ht : t ∈ included l.nodes)
    (hu : u ∈ included l'.nodes) (hname : t.name = u.name) (htk : t.unknown = false) :
    ∃ w ∈ versioned m.nodes, w.name = t.name ∧ t.le w ∧ u.le w ∧ (w = t ∨ w = u) := by
  have hentry := h.entry t.name
  have hle := riscvUpdateSubsetVersion_le (h.left.version ht) (h.right.version hu)
  rw [entry_of_mem h.left.ordered ht, hname, entry_of_mem h.right.ordered hu] at hentry
  have hw := entry_mem hentry
  refine ⟨_, mem_versioned.mpr ⟨hw, hle.1.known (h.left.version ht) (h.version hw) htk⟩, ?_, hle.1, hle.2,
    riscvUpdateSubsetVersion_eq hname⟩
  rw [riscvUpdateSubsetVersion_name, hname]

theorem Unites.isUnion (hin : (ldParse inArch).1 = true) (hout : (ldParse outArch).1 = true)
    (hneg : NoNegative (ldParse inArch).2.list.nodes) (hneg' : NoNegative (ldParse outArch).2.list.nodes)
    (hxin : (ldParse inArch).2.xlen = archSize) (hxout : (ldParse outArch).2.xlen = archSize)
    (hu : Unites (ldParse inArch).2.list (ldParse outArch).2.list) : IsUnion archSize inArch outArch := by
  obtain ⟨hleft, hfree, hx⟩ := ldParse_accepted hin hneg
  obtain ⟨hright, hfree', -⟩ := ldParse_accepted hout hneg'
  rw [hxin] at hfree hx
  rw [hxout] at hfree'
  obtain ⟨m, h, hmerge⟩ := merge_of_sameBase hin hout hneg hneg' hxin hxout hu.base
  have hknown := h.leftSide.knownBase h hu.not_has_left.1
  obtain ⟨st, hparse, hparsed, hc, hxst, -⟩ := h.parse hknown hx
  have hhas : ∀ n, st.list.Has n ↔ EitherHas (ldParse inArch).2.list (ldParse outArch).2.list n := by
    intro n
    rw [hc.has_iff h.versioned_ordered h.versioned_names]
    exact ⟨hu.has_of_implied h hknown, hu.implied h hknown⟩
  have hfree₃ : ConflictFree st.list archSize := hu.conflictFree h ((noConflict_iff hleft.parsed).mp hfree)
    ((noConflict_iff hright.parsed).mp hfree') hc hhas
  have haccepted : ldParse (riscvArchStr archSize m) = (true, st) := by
    rw [hparse]
    refine riscvParseCheckConflicts_of_noConflict ((noConflict_iff hparsed).mpr ?_)
    rw [hxst]
    exact hfree₃
  refine ⟨_, hmerge, ?_, ?_, ?_⟩
  · rw [haccepted]
  · intro n
    rw [haccepted]
    exact hhas n
  · intro t ht v hv w hw htw hvw htk hvk
    rw [haccepted] at hw
    -- both take part: an i after e has a version in one list at most
    have hpart {L : SubsetList} (hL : Side (ldParse inArch).2.list (ldParse outArch).2.list m L)
        (hno : ¬L.Has ['g'] ∧ ¬L.Has ['k'] ∧ ¬L.Has ['z']) {x : Subset} (hx : x ∈ L.nodes) (hxw : x.name = w.name) :
        x ∈ included L.nodes := by
      refine (hL.included_or hno hx).resolve_right ?_
      rintro ⟨hxi, b, hb, hbe⟩
      obtain ⟨s, hs, b', hb', hbname, -⟩ := h.leftSide.head
      have hse : s.name = ['e'] := by rw [← hbname, Option.mem_unique hb' hb, hbe]
      have hwi : w.name = ['i'] := hxw.symm.trans hxi
      have hnone := hu.baseE ⟨s, List.mem_of_mem_head? hs, hse⟩ t ht v hv (htw.trans hwi) (hvw.trans hwi)
      rw [htk, hvk] at hnone
      exact absurd hnone (by decide)
    obtain ⟨x, hx, hxname, htle, hvle, hor⟩ := h.newest
      (hpart h.leftSide hu.not_has_left ht htw) (hpart h.rightSide hu.not_has_right hv hvw) (htw.trans hvw.symm) htk
    rw [h.closure_eq hc hx hw (hxname.trans htw)]
    exact ⟨htle, hvle, hor⟩

/-- What is read back names no extension that the merge does not look for. -/
theorem MergedFrom.not_implied (h : MergedFrom l l' m) {n : Name} (hn : n ∈ [['g'], ['k'], ['z']]) :
    ¬Implied none riscvImplicitSubsets (versioned m.nodes) n := by
  intro himp
  cases himp with
  | @base w hw =>
    obtain ⟨b, rest, hcons, -, -, hbase, hrest⟩ := h.head
    have hwm := (mem_versioned.mp hw).1
    rw [hcons] at hwm
    rcases List.mem_cons.mp hwm with rfl | hwm
    · rcases hbase with hb | hb <;> rw [hb] at hn <;> exact absurd hn (by decide)
    · exact hrest w hwm (List.mem_cons_of_mem _ hn)
  | @row r hr _ _ => exact (riscvImplicitSubsets_split r hr).2.2 hn

/-- A version that is read back was in one of the lists. -/
theorem MergedFrom.known_of_written (h : MergedFrom l l' m) {w : Subset} (hw : w ∈ versioned m.nodes)
    (hgood : GoodName w.name) : ∃ t, (t ∈ l.nodes ∨ t ∈ l'.nodes) ∧ t.name = w.name ∧ t.unknown = false := by
  obtain ⟨hwm, hwk⟩ := mem_versioned.mp hw
  obtain ⟨-, t, ht, hcmp, hmajor, hminor⟩ := h.origin hwm
  exact ⟨t, ht.mem, ht.eq_of_good h hgood hcmp, (unknown_congr hmajor hminor).trans hwk⟩

theorem IsUnion.unites (hin : (ldParse inArch).1 = true) (hout : (ldParse outArch).1 = true)
    (hneg : NoNegative (ldParse inArch).2.list.nodes) (hneg' : NoNegative (ldParse outArch).2.list.nodes)
    (hunion : IsUnion archSize inArch outArch) : Unites (ldParse inArch).2.list (ldParse outArch).2.list := by
  obtain ⟨s, hresult, haccepted, hhas, hversions⟩ := hunion
  obtain ⟨hleft, -, hx⟩ := ldParse_accepted hin hneg
  obtain ⟨hright, -, -⟩ := ldParse_accepted hout hneg'
  have hmerge := hresult
  rw [merge_of_accepted hin hout] at hmerge
  obtain ⟨hbase, hxio, hxin⟩ := sameBase_of_mergeParsed hleft.parsed hright.parsed hmerge
  obtain ⟨m, h, hstr⟩ := merge_of_sameBase hin hout hneg hneg' hxin (hxio.trans hxin) hbase
  rw [hresult] at hstr
  cases hstr
  rw [hxin] at hx
  have hknown : KnownBase m := by
    by_contra hunknown
    exact h.not_accepted hunknown hx haccepted
  obtain ⟨st, hparse, hparsed, hc, hxst, -⟩ := h.parse hknown hx
  have hlist : (ldParse (riscvArchStr archSize m)).2.list = st.list := by
    rw [hparse]
    exact (riscvParseCheckConflicts_list st).1
  obtain ⟨hread, -, hfree, -⟩ := ldParse_nodes haccepted
  rw [hlist] at hhas hversions hread hfree
  have hfree := (noConflict_iff hread).mp hfree
  have himplied {n : Name} : EitherHas (ldParse inArch).2.list (ldParse outArch).2.list n ↔
      Implied none riscvImplicitSubsets (versioned m.nodes) n :=
    (hhas n).symm.trans (hc.has_iff h.versioned_ordered h.versioned_names)
  obtain ⟨b, rest, hcons, ⟨t, ht, htname, htle⟩, ⟨t', ht', htname', htle'⟩, hbname, -⟩ := h.head
  have hb : b ∈ m.nodes.head? := by rw [hcons]; rfl
  have htmem := List.mem_of_mem_head? ht
  refine ⟨hbase, ⟨?_, ?_, ?_⟩, ?_, ?_, ?_, ?_, ?_⟩
  · exact fun hg => h.not_implied (by decide) (himplied.mp hg)
  · exact fun hk => h.not_implied (by decide) (himplied.mp hk)
  · exact fun hz => h.not_implied (by decide) (himplied.mp hz)
  · -- two names with one key would both stand in one list
    intro x hx y hy hcmp
    obtain ⟨u, hu, huname⟩ := (hhas x.name).mpr (.inl ⟨x, hx, rfl⟩)
    obtain ⟨v, hv, hvname⟩ := (hhas y.name).mpr (.inr ⟨y, hy, rfl⟩)
    rw [← huname, ← hvname] at hcmp
    rw [← huname, ← hvname, eq_of_compare hread.ordered hu hv hcmp]
  · rintro ⟨hz, hf⟩
    exact hfree.zfinx ⟨(hhas _).mpr hz, (hhas _).mpr hf⟩
  · rintro ⟨hxt, hv⟩
    exact hfree.xtheadvector ⟨(hhas _).mpr hxt, (hhas _).mpr hv⟩
  · -- with base e the i that is read back has no version
    intro he x hx y hy hxi hyi
    have hbe : b.name = ['e'] := by
      by_contra hne
      exact not_has_e hleft.parsed ht (htname.symm.trans (hbname.resolve_left hne)) he
    by_contra hboth
    rw [not_or, Bool.not_eq_true, Bool.not_eq_true] at hboth
    obtain ⟨w, hw, hwname⟩ := (hhas ['i']).mpr (.inl ⟨x, hx, hxi⟩)
    have hle := (hversions x hx y hy w hw (hxi.trans hwname.symm) (hyi.trans hwname.symm) hboth.1 hboth.2).1
    have hrec := ((hc w).mp hw).2
    rw [hwname, h.recorded_i hb hbe] at hrec
    rw [hrec] at hle
    have hpos := (hneg x hx hboth.1).1
    unfold Subset.le riscvUnknownVersion at hle
    dsimp only at hle
    omega
  · intro hi hne r hr hforI hhasr
    have hbi : b.name = ['i'] := by
      refine hbname.resolve_left fun hbe => hne ⟨t, htmem, htname.symm.trans hbe⟩
    have hgood := (riscvImplicitSubsets_good r hr).2
    have himp := himplied.mp hhasr
    generalize hn : r.implicitName = n at himp hgood
    cases himp with
    | @base w hw =>
      exact .inl (h.known_of_written hw hgood)
    | @row r' hr' hsource hcheck =>
      cases hforI' : r'.check with
      | always => exact .inr (.inr ⟨r', hr', hforI', rfl, himplied.mpr hsource⟩)
      | forI =>
        -- the merged base is old, so both are
        refine .inr (.inl fun x hx hxi => ?_)
        have hbK := MergedFrom.base_written hknown hb
        have hrec : recorded none (versioned m.nodes) b.name = b := recorded_of_mem h.versioned_ordered hbK
        rw [((riscvImplicitSubsets_split r' hr').2.1 hforI').1, ← hbi, hrec, hforI'] at hcheck
        rw [hforI]
        refine ImplicitCheck.holds_of_le ?_ hcheck
        rcases hx with hx | hx
        · have hxt : x = t := by
            refine eq_of_compare hleft.parsed.ordered hx htmem ?_
            rw [hxi, ← htname, hbi]
            exact ReflCmp.compare_self
          rw [hxt]
          exact htle
        · have hxt : x = t' := by
            refine eq_of_compare hright.parsed.ordered hx (List.mem_of_mem_head? ht') ?_
            rw [hxi, ← htname', hbi]
            exact ReflCmp.compare_self
          rw [hxt]
          exact htle'

/-- The merge of two accepted strings without negative versions is their union exactly if the lists can be united. -/
theorem isUnion_iff_unites (archSize : Nat) (inArch outArch : List Char) (hin : (ldParse inArch).1 = true)
    (hout : (ldParse outArch).1 = true) (hxin : (ldParse inArch).2.xlen = archSize)
    (hxout : (ldParse outArch).2.xlen = archSize) (hneg : NoNegative (ldParse inArch).2.list.nodes)
    (hneg' : NoNegative (ldParse outArch).2.list.nodes) :
    IsUnion archSize inArch outArch ↔ Unites (ldParse inArch).2.list (ldParse outArch).2.list :=
  ⟨fun h => h.unites hin hout hneg hneg', fun h => h.isUnion hin hout hneg hneg' hxin hxout⟩

/-- Multiplication in one object and atomics in the other. -/
theorem isUnion_m_a : IsUnion 64 "rv64i2p1_m2p0".toList "rv64i2p1_a2p1".toList := by
  -- one evaluation, so that each string is read once
  obtain ⟨hin, hout, hxin, hxout, hneg, hneg', hbase, hmerged, hcmp, hzfinx, hxtheadvector, hbaseE, hnone⟩ :
      (ldParse "rv64i2p1_m2p0".toList).1 = true ∧ (ldParse "rv64i2p1_a2p1".toList).1 = true ∧
      (ldParse "rv64i2p1_m2p0".toList).2.xlen = 64 ∧ (ldParse "rv64i2p1_a2p1".toList).2.xlen = 64 ∧
      NoNegative (ldParse "rv64i2p1_m2p0".toList).2.list.nodes ∧
      NoNegative (ldParse "rv64i2p1_a2p1".toList).2.list.nodes ∧
      SameBase (ldParse "rv64i2p1_m2p0".toList).2.list (ldParse "rv64i2p1_a2p1".toList).2.list ∧
      (∀ n ∈ [['g'], ['k'], ['z']],
        ¬EitherHas (ldParse "rv64i2p1_m2p0".toList).2.list (ldParse "rv64i2p1_a2p1".toList).2.list n) ∧
      (∀ t ∈ (ldParse "rv64i2p1_m2p0".toList).2.list.nodes, ∀ u ∈ (ldParse "rv64i2p1_a2p1".toList).2.list.nodes,
        riscvCompareSubsets t.name u.name = .eq → t.name = u.name) ∧
      ¬EitherHas (ldParse "rv64i2p1_m2p0".toList).2.list (ldParse "rv64i2p1_a2p1".toList).2.list ['f'] ∧
      ¬EitherHas (ldParse "rv64i2p1_m2p0".toList).2.list (ldParse "rv64i2p1_a2p1".toList).2.list ['v'] ∧
      ¬(ldParse "rv64i2p1_m2p0".toList).2.list.Has ['e'] ∧
      ∀ r ∈ riscvImplicitSubsets, r.check = .forI →
        ¬EitherHas (ldParse "rv64i2p1_m2p0".toList).2.list (ldParse "rv64i2p1_a2p1".toList).2.list r.implicitName := by
    decide +kernel
  refine (isUnion_iff_unites 64 _ _ hin hout hxin hxout hneg hneg').mpr
    ⟨hbase, ⟨hmerged _ (by decide), hmerged _ (by decide), hmerged _ (by decide)⟩, hcmp, fun h => hzfinx h.2,
      fun h => hxtheadvector h.2, fun he => absurd he hbaseE, ?_⟩
  intro _ _ r hr hforI hhas
  exact absurd hhas (hnone r hr hforI)

/-- k is a standard extension that the merge does not look for. -/
theorem not_isUnion_k : (ldParse "rv64i2p1_k1p0".toList).1 = true ∧ (ldParse "rv64i2p1".toList).1 = true ∧
    (ldParse "rv64i2p1_k1p0".toList).2.xlen = 64 ∧ (ldParse "rv64i2p1".toList).2.xlen = 64 ∧
    SameBase (ldParse "rv64i2p1_k1p0".toList).2.list (ldParse "rv64i2p1".toList).2.list ∧
    ¬IsUnion 64 "rv64i2p1_k1p0".toList "rv64i2p1".toList := by
  obtain ⟨hin, hout, hxin, hxout, hneg, hneg', hbase, hk⟩ :
      (ldParse "rv64i2p1_k1p0".toList).1 = true ∧ (ldParse "rv64i2p1".toList).1 = true ∧
      (ldParse "rv64i2p1_k1p0".toList).2.xlen = 64 ∧ (ldParse "rv64i2p1".toList).2.xlen = 64 ∧
      NoNegative (ldParse "rv64i2p1_k1p0".toList).2.list.nodes ∧ NoNegative (ldParse "rv64i2p1".toList).2.list.nodes ∧
      SameBase (ldParse "rv64i2p1_k1p0".toList).2.list (ldParse "rv64i2p1".toList).2.list ∧
      EitherHas (ldParse "rv64i2p1_k1p0".toList).2.list (ldParse "rv64i2p1".toList).2.list ['k'] := by
    decide +kernel
  exact ⟨hin, hout, hxin, hxout, hbase, fun hunion => (hunion.unites hin hout hneg hneg').merged.2.1 hk⟩

end Exactly

end RiscvBinutils.Isa
