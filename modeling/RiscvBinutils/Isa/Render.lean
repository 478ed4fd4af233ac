/-
Writing a subset list as an ISA string (bfd/elfxx-riscv.c, `riscv_arch_str`).  This is the
whole string, as it is written where the buffer is large enough.
-/
import RiscvBinutils.Isa.Faithful

namespace RiscvBinutils.Isa

open Std RiscvBinutils.Base

/-! ## The string -/

/-- `%d`. -/
def decimal (v : Int) : List Char :=
  if v < 0 then '-' :: Nat.toDigits 10 v.natAbs else Nat.toDigits 10 v.toNat

/-- The part of the string for one extension: no underline between rvXX and i/e. -/
def archItem (s : Subset) : List Char :=
  let underline := if strcasecmp s.name ['i'] = .eq ∨ strcasecmp s.name ['e'] = .eq then [] else ['_']
  underline ++ s.name ++ decimal s.major ++ 'p' :: decimal s.minor

/-- The version of the extension is not known. -/
def Subset.unknown (s : Subset) : Bool := s.major = riscvUnknownVersion ∨ s.minor = riscvUnknownVersion

/-- The nodes after one with this name: i after e is skipped, and extensions whose version is not known. -/
def archTail (name : Name) : List Subset → List Char
  | [] => []
  | next :: rest =>
    if (name = ['e'] ∧ next.name = ['i']) ∨ next.unknown then archTail next.name rest
    else archItem next ++ archTail next.name rest

/-- `riscv_arch_str1`; the first node is always written. -/
def riscvArchStr1 : List Subset → List Char
  | [] => []
  | s :: rest => archItem s ++ archTail s.name rest

/-- `riscv_arch_str`. -/
def riscvArchStr (xlen : Nat) (l : SubsetList) : List Char :=
  'r' :: 'v' :: Nat.toDigits 10 xlen ++ riscvArchStr1 l.nodes

/-! ## The nodes written -/

section Shown

variable {nodes : List Subset}

/-- A node that is written after the first one. -/
def Subset.shown (s : Subset) : Bool := !s.unknown && s.name ≠ ['i']

/-- The nodes that are written. -/
def shownNodes : List Subset → List Subset
  | [] => []
  | s :: rest => s :: rest.filter Subset.shown

theorem archTail_eq {s : Subset} {rest : List Subset} (hord : Ordered riscvCompareSubsets Subset.name (s :: rest))
    (hnames : ∀ t ∈ s :: rest, ParsedName t.name) :
    archTail s.name rest = (rest.filter Subset.shown).flatMap archItem := by
  induction rest generalizing s with
  | nil => rfl
  | cons n rest ih =>
    obtain ⟨hs, hord'⟩ := List.pairwise_cons.mp hord
    have hih := ih hord' fun t ht => hnames t (List.mem_cons_of_mem s ht)
    -- an i that is not the first stands right after e
    have hskip : ((s.name = ['e'] ∧ n.name = ['i']) ∨ n.unknown = true) ↔ n.shown = false := by
      have he : n.name = ['i'] → s.name = ['e'] := by
        intro hi
        have hlt := hs n List.mem_cons_self
        rw [hi] at hlt
        exact eq_e_of_lt_i (hnames s List.mem_cons_self) hlt
      unfold Subset.shown
      cases n.unknown with
      | true => simp
      | false =>
        simp only [Bool.false_eq_true, or_false, Bool.not_false, Bool.true_and, decide_eq_false_iff_not, not_not]
        exact ⟨fun h => h.2, fun h => ⟨he h, h⟩⟩
    rw [archTail, hih]
    by_cases h : n.shown = true
    · rw [if_neg (by rw [hskip, h]; simp), List.filter_cons_of_pos h, List.flatMap_cons]
    · rw [if_pos (hskip.mpr (Bool.not_eq_true _ ▸ h)), List.filter_cons_of_neg h]

theorem riscvArchStr1_eq (hord : Ordered riscvCompareSubsets Subset.name nodes)
    (hnames : ∀ t ∈ nodes, ParsedName t.name) : riscvArchStr1 nodes = (shownNodes nodes).flatMap archItem := by
  cases nodes with
  | nil => rfl
  | cons s rest => rw [riscvArchStr1, archTail_eq hord hnames, shownNodes, List.flatMap_cons]

theorem mem_shownNodes {s t : Subset} {rest : List Subset} :
    t ∈ shownNodes (s :: rest) ↔ t = s ∨ (t ∈ rest ∧ t.shown = true) := by
  rw [shownNodes, List.mem_cons, List.mem_filter]

theorem shownNodes_sublist (nodes : List Subset) : (shownNodes nodes).Sublist nodes := by
  cases nodes with
  | nil => exact .slnil
  | cons s rest => exact List.filter_sublist.cons_cons s

end Shown

/-! ## Reading a string that was written -/

section ReadBack

variable {rps : Rps} {nodes : List Subset} {st : ParseState}

/-- The node as an extension of a string. -/
def Subset.token (s : Subset) : Token := ⟨s.name, s.major, s.minor⟩

/-- Nodes that can be written and read back: a base, and nothing else of which the version is left out. -/
structure Printable (check : Bool) (nodes : List Subset) : Prop where
  ordered : Ordered riscvCompareSubsets Subset.name nodes
  base : ∃ s rest, nodes = s :: rest ∧ (s.name = ['e'] ∨ s.name = ['i']) ∧
    ∀ t ∈ rest, t.name ≠ ['e'] ∧ t.name ≠ ['i']
  writable : ∀ s ∈ nodes, Writable check s.token
  noG : ∀ s ∈ nodes, s.name ≠ ['g']

theorem strcasecmp_eq_iff {a b : Name} (ha : ∀ c ∈ a, isUpper c = false) (hb : ∀ c ∈ b, isUpper c = false) :
    strcasecmp a b = .eq ↔ a = b := by
  rw [strcasecmp_eq]
  constructor
  · intro h
    exact lowerKey_inj ha hb (LawfulEqOrd.eq_of_compare h)
  · rintro rfl
    exact ReflOrd.compare_self

theorem decimal_of_nonneg {v : Int} (h : 0 ≤ v) : decimal v = Nat.toDigits 10 v.toNat := if_neg (by omega)

theorem archItem_eq {check : Bool} {s : Subset} (h : Writable check s.token) :
    archItem s = (if s.name = ['e'] ∨ s.name = ['i'] then [] else ['_']) ++
      (s.name ++ versionText s.major.toNat s.minor.toNat) := by
  have hlower := h.clean.parsed.lower
  have hi : strcasecmp s.name ['i'] = .eq ↔ s.name = ['i'] := strcasecmp_eq_iff hlower (by decide)
  have he : strcasecmp s.name ['e'] = .eq ↔ s.name = ['e'] := strcasecmp_eq_iff hlower (by decide)
  unfold archItem versionText
  have hmajor : decimal s.major = _ := decimal_of_nonneg h.major.1
  have hminor : decimal s.minor = _ := decimal_of_nonneg h.minor.1
  rw [hmajor, hminor]
  simp only [hi, he, or_comm (a := s.name = ['i']), List.append_assoc]

theorem flatMap_archItem {check : Bool} {rest : List Subset}
    (hrest : ∀ t ∈ rest, Writable check t.token ∧ t.name ≠ ['e'] ∧ t.name ≠ ['i']) :
    rest.flatMap archItem = written (rest.map Subset.token) := by
  rw [written, List.flatMap_map]
  refine List.flatMap_congr fun t ht => ?_
  obtain ⟨hw, hne, hni⟩ := hrest t ht
  rw [archItem_eq hw, if_neg (not_or_intro hne hni)]
  rfl

theorem isUpper_of_isDigit {c : Char} (h : isDigit c = true) : isUpper c = false := by
  have h9 : c.toNat ≤ 57 := (of_decide_eq_true h).2
  refine decide_eq_false ?_
  rintro ⟨ha, -⟩
  have ha : 65 ≤ c.toNat := ha
  omega

theorem isUpper_versionText (major minor : Nat) : ∀ c ∈ versionText major minor, isUpper c = false := by
  intro c hc
  rcases List.mem_append.mp hc with hc | hc
  · exact isUpper_of_isDigit (isDigit_of_mem_toDigits hc)
  · rcases List.mem_cons.mp hc with rfl | hc
    · decide
    · exact isUpper_of_isDigit (isDigit_of_mem_toDigits hc)

theorem isUpper_written {ts : List Token} (hts : ∀ t ∈ ts, ParsedName t.name) :
    ∀ c ∈ written ts, isUpper c = false := by
  intro c hc
  obtain ⟨t, ht, hc⟩ := List.mem_flatMap.mp hc
  rcases List.mem_cons.mp hc with rfl | hc
  · decide
  · rcases List.mem_append.mp hc with hc | hc
    · exact (hts t ht).lower c hc
    · exact isUpper_versionText _ _ c hc

/-- A string that was written has the right form. -/
theorem Printable.archForm (h : Printable rps.checkUnknownPrefixedExt nodes) {xlen : Nat}
    (hxlen : xlen = 32 ∨ xlen = 64) :
    ArchForm rps ('r' :: 'v' :: Nat.toDigits 10 xlen ++ nodes.flatMap archItem) xlen (nodes.map Subset.token) := by
  obtain ⟨s, rest, rfl, hbase, hrest⟩ := h.base
  have hs := h.writable s List.mem_cons_self
  have hts : ∀ t ∈ rest.map Subset.token, Writable rps.checkUnknownPrefixedExt t := by
    intro t ht
    obtain ⟨u, hu, rfl⟩ := List.mem_map.mp ht
    exact h.writable u (List.mem_cons_of_mem s hu)
  have htext : (s :: rest).flatMap archItem =
      s.name ++ versionText s.major.toNat s.minor.toNat ++ written (rest.map Subset.token) := by
    rw [List.flatMap_cons, archItem_eq hs, if_pos hbase,
      flatMap_archItem fun t ht => ⟨h.writable t (List.mem_cons_of_mem s ht), hrest t ht⟩]
    rfl
  rw [htext]
  set p := s.name ++ versionText s.major.toNat s.minor.toNat ++ written (rest.map Subset.token) with hp
  refine ⟨?_, p, ?_, ?_, ?_⟩
  · have hupper : ∀ c ∈ p, isUpper c = false := by
      intro c hc
      rcases List.mem_append.mp hc with hc | hc
      · rcases List.mem_append.mp hc with hc | hc
        · exact hs.clean.parsed.lower c hc
        · exact isUpper_versionText _ _ c hc
      · exact isUpper_written (fun t ht => (hts t ht).clean.parsed) c hc
    rw [List.any_eq_false]
    intro c hc
    rw [Bool.not_eq_true]
    rcases List.mem_append.mp hc with hc | hc
    · rcases List.mem_cons.mp hc with rfl | hc
      · decide
      · rcases List.mem_cons.mp hc with rfl | hc
        · decide
        · exact isUpper_of_isDigit (isDigit_of_mem_toDigits hc)
    · exact hupper c hc
  · rcases hxlen with rfl | rfl <;> rfl
  · rw [hp]
    rcases hbase with hb | hb <;> rw [hb]
    · exact .inl rfl
    · exact .inr (.inl rfl)
  · have hlen : p.length = s.name.length + (versionText s.major.toNat s.minor.toNat).length +
        (written (rest.map Subset.token)).length := by
      rw [hp, List.length_append, List.length_append]
    have hpos : 0 < s.name.length := List.length_pos_of_ne_nil hs.clean.ne_nil
    obtain ⟨fuel, hfuel⟩ : ∃ k, p.length = k + 1 := ⟨p.length - 1, by omega⟩
    have hscan := @scanExtensions_cons rps.checkUnknownPrefixedExt
      ('r' :: 'v' :: Nat.toDigits 10 xlen ++ p) s.token hs _ (atBreak_written (rest.map Subset.token)) fuel
    have hrestScan := @scanExtensions_written rps.checkUnknownPrefixedExt
      ('r' :: 'v' :: Nat.toDigits 10 xlen ++ p) _ hts fuel (by omega)
    rw [hrestScan] at hscan
    rw [hfuel]
    exact hscan

theorem Writable.tokenEntry {s : Subset} (h : Writable rps.checkUnknownPrefixedExt s.token) (hg : s.name ≠ ['g']) :
    tokenEntry rps s.token = some s := by
  have hmajor := h.major.1
  have hminor := h.minor.1
  have hversioned : s.token.Versioned := by
    unfold Token.Versioned riscvUnknownVersion
    omega
  have hname : s.token.name ≠ ['g'] := hg
  rw [tokenEntry_eq, Token.recorded, if_neg hname, if_pos hversioned]
  rfl

/-- Reading a string that was written gives the closure of what was written. -/
theorem Printable.parse (h : Printable rps.checkUnknownPrefixedExt nodes) {xlen : Nat} (hxlen : xlen = 32 ∨ xlen = 64)
    (hempty : st.list = {}) : ∃ st',
      riscvParseSubset rps (some ('r' :: 'v' :: Nat.toDigits 10 xlen ++ nodes.flatMap archItem)) st =
          riscvParseCheckConflicts st' ∧
        st'.list.Parsed ∧ IsClosure rps.isaSpec riscvImplicitSubsets nodes st'.list.nodes ∧
        st'.xlen = xlen ∧ st'.errors = st.errors := by
  have hform := h.archForm hxlen
  have hentries : tokenEntries rps (nodes.map Subset.token) = nodes := by
    rw [tokenEntries, List.filterMap_map]
    have hall : ∀ s ∈ nodes, (tokenEntry rps ∘ Subset.token) s = some s :=
      fun s hs => (h.writable s hs).tokenEntry (h.noG s hs)
    rw [List.filterMap_congr hall, List.filterMap_some]
  have hnone : (nodes.map Subset.token).flatMap (tokenErrors rps) = [] := by
    rw [List.flatMap_eq_nil_iff]
    intro t ht
    obtain ⟨s, hs, rfl⟩ := List.mem_map.mp ht
    rw [tokenErrors, (h.writable s hs).tokenEntry (h.noG s hs)]
    rfl
  have hl : st.list.Parsed := hempty ▸ .nil
  obtain ⟨hacc, hx⟩ := hform.accepted hl
  refine ⟨_, hform.parse st, hacc.parsed, ?_, hx, ?_⟩
  · obtain ⟨base, hord, -, hentry, hclosure⟩ := hacc.closure
    have hbase : base = nodes := by
      refine hord.ext h.ordered fun k => ?_
      have hk := hentry k
      rw [hempty, hentries] at hk
      exact hk
    rwa [hbase] at hclosure
  · rw [hacc.errors, hnone, List.append_nil]

end ReadBack

/-! ## The nodes of an accepted string -/

section Nodes

variable {rps : Rps} {arch : List Char} {st st' : ParseState} {ts : List Token}

/-- The versions that a list holds: none, or one that can be read. -/
def VersionOk (major minor : Int) : Prop :=
  (major = riscvUnknownVersion ∧ minor = riscvUnknownVersion) ∨
    (major ≠ riscvUnknownVersion ∧ minor ≠ riscvUnknownVersion ∧ TokenVersion major minor)

/-- No version is negative: none went past what an `int` can hold. -/
def NoNegative (nodes : List Subset) : Prop := ∀ s ∈ nodes, s.unknown = false → 0 ≤ s.major ∧ 0 ≤ s.minor

instance (nodes : List Subset) : Decidable (NoNegative nodes) :=
  inferInstanceAs (Decidable (∀ s ∈ nodes, s.unknown = false → _))

/-- A node that an accepted string leaves. -/
structure NodeOk (rps : Rps) (s : Subset) : Prop where
  clean : CleanName s.name
  recognized : rps.checkUnknownPrefixedExt = true → riscvGetPrefixClass s.name ≠ .single →
    riscvRecognizedPrefixedExt s.name = true
  version : VersionOk s.major s.minor
  implied : s.unknown = true → s = impliedEntry rps.isaSpec s.name
  unknownG : s.name = ['g'] → s.unknown = true

theorem unknown_eq_false_iff {s : Subset} :
    s.unknown = false ↔ s.major ≠ riscvUnknownVersion ∧ s.minor ≠ riscvUnknownVersion := by
  rw [Subset.unknown, decide_eq_false_iff_not, not_or]

theorem impliedEntry_ok (isaSpec : Option IsaSpecClass) (n : Name) :
    VersionOk (impliedEntry isaSpec n).major (impliedEntry isaSpec n).minor := by
  rw [impliedEntry, resolveVersion, if_pos (.inl rfl)]
  cases hdef : riscvGetDefaultExtVersion isaSpec n with
  | none => exact .inl ⟨rfl, rfl⟩
  | some v => exact .inr ⟨(default_known hdef).1, (default_known hdef).2, (default_ok hdef).2.2⟩

theorem impliedEntry_g (isaSpec : Option IsaSpecClass) :
    impliedEntry isaSpec ['g'] = ⟨['g'], riscvUnknownVersion, riscvUnknownVersion⟩ := by
  rw [impliedEntry, resolveVersion, if_pos (.inl rfl), default_g]
  rfl

/-- The names the table implies can be written, and g is not among them. -/
theorem riscvImplicitSubsets_clean : ∀ r ∈ riscvImplicitSubsets, CleanName r.implicitName ∧
    (riscvGetPrefixClass r.implicitName ≠ .single → riscvRecognizedPrefixedExt r.implicitName = true) ∧
    r.implicitName ≠ ['g'] := by
  decide +kernel

theorem VersionOk.read {s : Subset} (h : VersionOk s.major s.minor) (hs : s.unknown = false) :
    TokenVersion s.major s.minor :=
  (h.resolve_left fun hv => (unknown_eq_false_iff.mp hs).1 hv.1).2.2

theorem NodeOk.writable {s : Subset} (h : NodeOk rps s) (hs : s.unknown = false) (hneg : 0 ≤ s.major ∧ 0 ≤ s.minor) :
    Writable rps.checkUnknownPrefixedExt s.token := by
  obtain ⟨hmajor, hminor, hknown⟩ := h.version.read hs
  exact ⟨h.clean, ⟨hneg.1, hmajor.2⟩, ⟨hneg.2, hminor.2⟩, hknown, h.recognized⟩

theorem nodeOk_of_token {t : Token} {s : Subset} (hclean : CleanName t.name) (hversion : TokenVersion t.major t.minor)
    (hrec : rps.checkUnknownPrefixedExt = true → riscvGetPrefixClass t.name ≠ .single →
      riscvRecognizedPrefixedExt t.name = true) (h : tokenEntry rps t = some s) :
    NodeOk rps s ∧ (s.name ≠ ['g'] → s.unknown = false) := by
  have hname := tokenEntry_name h
  by_cases hg : t.name = ['g']
  · have hs : s = impliedEntry rps.isaSpec ['g'] := by
      rw [tokenEntry, if_pos hg, hg] at h
      exact (Option.some.inj h).symm
    have hsname : s.name = ['g'] := hname.trans hg
    have hunknown : s.unknown = true := by rw [hs, impliedEntry_g]; rfl
    refine ⟨⟨hname ▸ hclean, hname ▸ hrec, hs ▸ impliedEntry_ok _ _, fun _ => hsname ▸ hs, fun _ => hunknown⟩, ?_⟩
    intro hne
    exact absurd hsname hne
  · have hknown : s.unknown = false ∧ TokenVersion s.major s.minor := by
      rw [tokenEntry_eq, Token.recorded, if_neg hg] at h
      obtain ⟨v, hv, rfl⟩ := Option.map_eq_some_iff.mp h
      split at hv
      · rename_i hversioned
        cases hv
        exact ⟨unknown_eq_false_iff.mpr hversioned, hversion⟩
      · exact ⟨unknown_eq_false_iff.mpr (default_known hv), (default_ok hv).2.2⟩
    obtain ⟨hmajor, hminor⟩ := unknown_eq_false_iff.mp hknown.1
    refine ⟨⟨hname ▸ hclean, hname ▸ hrec, .inr ⟨hmajor, hminor, hknown.2⟩, ?_, ?_⟩, fun _ => hknown.1⟩
    · intro hunknown
      rw [hknown.1] at hunknown
      cases hunknown
    · intro hsg
      exact absurd (hname.symm.trans hsg) hg

/-- The nodes of the string: those it names, and those that are implied. -/
structure Nodes (rps : Rps) (base nodes : List Subset) : Prop where
  ordered : Ordered riscvCompareSubsets Subset.name nodes
  baseOrdered : Ordered riscvCompareSubsets Subset.name base
  baseNames : ∀ s ∈ base, ParsedName s.name
  baseKnown : ∀ s ∈ base, s.name ≠ ['g'] → s.unknown = false
  closure : IsClosure rps.isaSpec riscvImplicitSubsets base nodes
  ok : ∀ s ∈ nodes, NodeOk rps s

theorem ArchForm.nodes {xlen : Nat} (hform : ArchForm rps arch xlen ts) (hacc : Accepted rps ts st st')
    (hempty : st.list = {}) : ∃ base, Nodes rps base st'.list.nodes := by
  obtain ⟨base, hord, hnames, hentry, hclosure⟩ := hacc.closure
  have htoken : ∀ s ∈ base, ∃ t ∈ ts, tokenEntry rps t = some s := by
    intro s hs
    have hfound := hentry s.name
    rw [entry_of_mem hord hs, hempty] at hfound
    exact List.mem_filterMap.mp (entry_mem hfound.symm)
  have hbase : ∀ s ∈ base, NodeOk rps s ∧ (s.name ≠ ['g'] → s.unknown = false) := by
    intro s hs
    obtain ⟨t, ht, hts⟩ := htoken s hs
    obtain ⟨hclean, hversion, hrec⟩ := hform.tokens t ht
    exact nodeOk_of_token hclean hversion hrec hts
  refine ⟨base, hacc.parsed.ordered, hord, hnames, fun s hs => (hbase s hs).2, hclosure, ?_⟩
  intro s hs
  obtain ⟨himp, hrec⟩ := (hclosure s).mp hs
  cases hfound : entry s.name base with
  | some u =>
    rw [recorded, hfound, Option.getD_some] at hrec
    rw [hrec]
    exact (hbase u (entry_mem hfound)).1
  | none =>
    rw [recorded, hfound, Option.getD_none] at hrec
    generalize hn : s.name = n at himp hrec hfound
    cases himp with
    | base hu =>
      rw [entry_of_mem hord hu] at hfound
      cases hfound
    | @row r hr _ _ =>
      obtain ⟨hclean, hrecognized, hg⟩ := riscvImplicitSubsets_clean r hr
      refine ⟨hn ▸ hclean, fun _ => hn ▸ hrecognized, hrec ▸ impliedEntry_ok _ _, fun _ => hn ▸ hrec, ?_⟩
      intro hsg
      exact absurd (hn.symm.trans hsg) hg

variable {base nodes : List Subset}

theorem Nodes.baseParsed (h : Nodes rps base nodes) :
    SubsetList.Parsed { nodes := base, tail := base.getLast?.map (·.name) } :=
  ⟨⟨h.baseOrdered, rfl⟩, h.baseNames⟩

theorem Nodes.least (h : Nodes rps base nodes) : LeastClosure riscvImplicitSubsets base nodes :=
  IsClosure.leastClosure riscvImplicitSubsets_good h.baseParsed h.ordered h.closure

theorem Nodes.recorded_mem (h : Nodes rps base nodes) {n : Name} (hgood : GoodName n)
    (hn : Implied rps.isaSpec riscvImplicitSubsets base n) :
    recorded rps.isaSpec base n ∈ nodes ∧ (recorded rps.isaSpec base n).name = n :=
  ⟨h.closure.recorded_mem h.baseParsed hgood hn, recorded_name h.baseParsed hgood⟩

theorem Nodes.known_ne_g (h : Nodes rps base nodes) {s : Subset} (hs : s ∈ nodes) (hknown : s.unknown = false) :
    s.name ≠ ['g'] := by
  intro hg
  rw [(h.ok s hs).unknownG hg] at hknown
  cases hknown

theorem eq_of_compare (hord : Ordered riscvCompareSubsets Subset.name nodes) {s t : Subset} (hs : s ∈ nodes)
    (ht : t ∈ nodes) (hcmp : riscvCompareSubsets s.name t.name = .eq) : s = t := by
  have hsame : entry s.name nodes = entry t.name nodes := findKey_congr hcmp nodes
  rw [entry_of_mem hord hs, entry_of_mem hord ht] at hsame
  exact Option.some.inj hsame

end Nodes

/-! ## The round trip -/

section RoundTrip

variable {rps : Rps} {base nodes : List Subset}

/-- The i that stands after e is not written, and has the version that e gives it. -/
def DefaultI (isaSpec : Option IsaSpecClass) (nodes : List Subset) : Prop :=
  (∃ s ∈ nodes, s.name = ['e']) → ∀ s ∈ nodes, s.name = ['i'] → s = impliedEntry isaSpec ['i']

/-- Everything that g implies has a version, or is implied by an extension that has one. -/
def WithoutG (nodes : List Subset) : Prop :=
  (∃ s ∈ nodes, s.name = ['g']) → ∀ r ∈ riscvImplicitSubsets, r.subsetName = ['g'] →
    (∃ s ∈ nodes, s.name = r.implicitName ∧ s.unknown = false) ∨
      ∃ r' ∈ riscvImplicitSubsets, r'.implicitName = r.implicitName ∧
        ∃ u ∈ nodes, u.name = r'.subsetName ∧ u.unknown = false ∧ r'.check.holds u = true

/-- Nothing implies e, and only e and g imply i. -/
theorem riscvImplicitSubsets_base : ∀ r ∈ riscvImplicitSubsets, r.implicitName ≠ ['e'] ∧
    (r.implicitName = ['i'] → r.subsetName = ['e'] ∨ r.subsetName = ['g']) := by
  decide +kernel

theorem e_implies_i : implies "e" "i" ∈ riscvImplicitSubsets := by decide

variable {s : Subset} {rest : List Subset}

/-- The base has a version. -/
theorem Nodes.head_known (h : Nodes rps base (s :: rest)) (hbase : s.name = ['e'] ∨ s.name = ['i'])
    (hg : WithoutG (s :: rest)) : s.unknown = false := by
  have hs : s ∈ s :: rest := List.mem_cons_self
  have hknown : ∀ u ∈ base, u.name = s.name → s.unknown = false := by
    intro u hu hname
    have hus : u = s := h.least.unique u (h.least.kept u hu) s hs hname
    refine hus ▸ h.baseKnown u hu ?_
    rw [hname]
    rcases hbase with hb | hb <;> rw [hb] <;> decide
  obtain ⟨himp, -⟩ := (h.closure s).mp hs
  generalize hn : s.name = n at himp
  cases himp with
  | @base u hu => exact hknown u hu hn.symm
  | @row r hr hsubset hcheck =>
    obtain ⟨hnotE, hi⟩ := riscvImplicitSubsets_base r hr
    have hsi : s.name = ['i'] := hbase.resolve_left fun hse => hnotE (hn.symm.trans hse)
    have hfrom : ∀ u ∈ s :: rest, u.name ≠ ['e'] := by
      intro u hu hname
      rw [eq_head_of_e h.ordered hu hname, hsi] at hname
      exact absurd hname (by decide)
    obtain ⟨hmem, hname⟩ := h.recorded_mem (riscvImplicitSubsets_good r hr).1 hsubset
    rcases hi (hn.symm.trans hsi) with hsub | hsub
    · exact absurd (hname.trans hsub) (hfrom _ hmem)
    · rcases hg ⟨_, hmem, hname.trans hsub⟩ r hr hsub with ⟨u, hu, huname, huknown⟩ |
        ⟨r', hr', hr'name, u, hu, huname, huknown, -⟩
      · rw [← h.least.unique u hu s hs (huname.trans hn.symm)]
        exact huknown
      · rcases (riscvImplicitSubsets_base r' hr').2 (hr'name.trans (hn.symm.trans hsi)) with hsub' | hsub'
        · exact absurd (huname.trans hsub') (hfrom u hu)
        · exact absurd (huname.trans hsub') (h.known_ne_g hu huknown)

/-- A node with a version is written, except i after e. -/
theorem Nodes.known_shown (h : Nodes rps base (s :: rest)) {t : Subset} (ht : t ∈ s :: rest)
    (hknown : t.unknown = false) : t ∈ shownNodes (s :: rest) ∨ (t.name = ['i'] ∧ s.name = ['e']) := by
  rw [mem_shownNodes]
  rcases List.mem_cons.mp ht with rfl | hrest
  · exact .inl (.inl rfl)
  · by_cases hi : t.name = ['i']
    · have hlt := (List.pairwise_cons.mp h.ordered).1 t hrest
      rw [hi] at hlt
      exact .inr ⟨hi, eq_e_of_lt_i (h.ok s List.mem_cons_self).clean.parsed hlt⟩
    · refine .inl (.inr ⟨hrest, ?_⟩)
      rw [Subset.shown, hknown, decide_eq_true hi]
      rfl

theorem Nodes.implied_known (h : Nodes rps base (s :: rest)) {t : Subset} (ht : t ∈ s :: rest)
    (hknown : t.unknown = false) :
    Implied rps.isaSpec riscvImplicitSubsets (shownNodes (s :: rest)) t.name := by
  rcases h.known_shown ht hknown with hshown | ⟨hi, he⟩
  · exact .base hshown
  · rw [hi]
    have hsubset : Implied rps.isaSpec riscvImplicitSubsets (shownNodes (s :: rest)) ['e'] :=
      he ▸ .base (mem_shownNodes.mpr (.inl rfl))
    exact .row e_implies_i hsubset rfl

/-- What the string does not say is recorded again as it was. -/
theorem Nodes.recorded_shown (h : Nodes rps base (s :: rest)) (he : DefaultI rps.isaSpec (s :: rest)) {t : Subset}
    (ht : t ∈ s :: rest) : recorded rps.isaSpec (shownNodes (s :: rest)) t.name = t := by
  have hsub := shownNodes_sublist (s :: rest)
  by_cases hshown : t ∈ shownNodes (s :: rest)
  · exact recorded_of_mem (h.ordered.sublist hsub) hshown
  · have hnone : entry t.name (shownNodes (s :: rest)) = none := by
      refine findKey_eq_none_iff.mpr fun u hu hcmp => hshown ?_
      rwa [← eq_of_compare h.ordered (hsub.subset hu) ht hcmp]
    rw [recorded, hnone, Option.getD_none]
    cases hknown : t.unknown with
    | true => exact ((h.ok t ht).implied hknown).symm
    | false =>
      obtain ⟨hi, hse⟩ := (h.known_shown ht hknown).resolve_left hshown
      rw [hi]
      exact (he ⟨s, List.mem_cons_self, hse⟩ t ht hi).symm

/-- What the string does not say is implied again, except g. -/
theorem Nodes.implied_shown (h : Nodes rps base (s :: rest)) (he : DefaultI rps.isaSpec (s :: rest))
    (hg : WithoutG (s :: rest)) {n : Name} (hn : Implied rps.isaSpec riscvImplicitSubsets base n) (hne : n ≠ ['g']) :
    Implied rps.isaSpec riscvImplicitSubsets (shownNodes (s :: rest)) n := by
  induction hn with
  | @base u hu => exact h.implied_known (h.least.kept u hu) (h.baseKnown u hu hne)
  | @row r hr hsubset hcheck ih =>
    obtain ⟨hmem, hname⟩ := h.recorded_mem (riscvImplicitSubsets_good r hr).1 hsubset
    by_cases hsub : r.subsetName = ['g']
    · rcases hg ⟨_, hmem, hname.trans hsub⟩ r hr hsub with ⟨u, hu, huname, huknown⟩ |
        ⟨r', hr', hr'name, u, hu, huname, huknown, hucheck⟩
      · rw [← huname]
        exact h.implied_known hu huknown
      · rw [← hr'name]
        refine .row hr' (huname ▸ h.implied_known hu huknown) ?_
        rw [← huname, h.recorded_shown he hu]
        exact hucheck
    · refine .row hr (ih hsub) ?_
      have hrec := h.recorded_shown he hmem
      rw [hname] at hrec
      rw [hrec]
      exact hcheck

/-- What the string implies was there. -/
theorem Nodes.mem_of_implied_shown (h : Nodes rps base (s :: rest)) (he : DefaultI rps.isaSpec (s :: rest))
    (hbase : s.unknown = false) {n : Name}
    (hn : Implied rps.isaSpec riscvImplicitSubsets (shownNodes (s :: rest)) n) :
    ∃ t ∈ s :: rest, t.name = n ∧ n ≠ ['g'] := by
  induction hn with
  | @base u hu =>
    have hmem := (shownNodes_sublist (s :: rest)).subset hu
    refine ⟨u, hmem, rfl, h.known_ne_g hmem ?_⟩
    rcases mem_shownNodes.mp hu with rfl | ⟨-, hshown⟩
    · exact hbase
    · rw [Subset.shown, Bool.and_eq_true, Bool.not_eq_true'] at hshown
      exact hshown.1
  | @row r hr hsubset hcheck ih =>
    obtain ⟨t, ht, hname, -⟩ := ih
    have hrec := h.recorded_shown he ht
    rw [hname] at hrec
    rw [hrec] at hcheck
    obtain ⟨u, hu, huname⟩ := h.least.closed r hr t ht hname hcheck
    exact ⟨u, hu, huname, (riscvImplicitSubsets_clean r hr).2.2⟩

theorem Nodes.printable (h : Nodes rps base (s :: rest)) (hbase : s.name = ['e'] ∨ s.name = ['i'])
    (hknown : s.unknown = false) (hneg : NoNegative (s :: rest)) :
    Printable rps.checkUnknownPrefixedExt (shownNodes (s :: rest)) := by
  have hsub := shownNodes_sublist (s :: rest)
  have hshown : ∀ t ∈ shownNodes (s :: rest), t.unknown = false := by
    intro t ht
    rcases mem_shownNodes.mp ht with rfl | ⟨-, hshown⟩
    · exact hknown
    · rw [Subset.shown, Bool.and_eq_true, Bool.not_eq_true'] at hshown
      exact hshown.1
  refine ⟨h.ordered.sublist hsub, ⟨s, _, rfl, hbase, ?_⟩, ?_, ?_⟩
  · intro t ht
    obtain ⟨hrest, hshown⟩ := List.mem_filter.mp ht
    have hlt := (List.pairwise_cons.mp h.ordered).1 t hrest
    refine ⟨?_, ?_⟩
    · intro hname
      rw [hname] at hlt
      exact not_lt_e hlt
    · rw [Subset.shown, Bool.and_eq_true, decide_eq_true_iff] at hshown
      exact hshown.2
  · intro t ht
    have hmem := hsub.subset ht
    exact (h.ok t hmem).writable (hshown t ht) (hneg t hmem (hshown t ht))
  · intro t ht
    exact h.known_ne_g (hsub.subset ht) (hshown t ht)

/-- The closure of what is written is everything but g. -/
theorem Nodes.closure_shown (h : Nodes rps base (s :: rest)) (he : DefaultI rps.isaSpec (s :: rest))
    (hg : WithoutG (s :: rest)) (hknown : s.unknown = false) {nodes' : List Subset}
    (hord : Ordered riscvCompareSubsets Subset.name nodes')
    (hc : IsClosure rps.isaSpec riscvImplicitSubsets (shownNodes (s :: rest)) nodes') :
    nodes' = (s :: rest).filter (·.name ≠ ['g']) := by
  refine ordered_ext hord (h.ordered.sublist List.filter_sublist) fun t => ?_
  rw [hc t, List.mem_filter, decide_eq_true_iff]
  constructor
  · rintro ⟨himp, hrec⟩
    obtain ⟨u, hu, huname, hne⟩ := h.mem_of_implied_shown he hknown himp
    rw [← huname, h.recorded_shown he hu] at hrec
    exact ⟨hrec ▸ hu, hne⟩
  · rintro ⟨ht, hne⟩
    exact ⟨h.implied_shown he hg ((h.closure t).mp ht).1 hne, (h.recorded_shown he ht).symm⟩

/-- Lists that differ only in g have the same conflicts. -/
theorem conflicts_congr {l l' : SubsetList} (hl : l.Parsed) (hl' : l'.Parsed)
    (h : ∀ s : Subset, s.name ≠ ['g'] → (s ∈ l.nodes ↔ s ∈ l'.nodes)) (xlen : Nat) :
    conflicts l xlen = conflicts l' xlen := by
  have hfind {n : Name} (hn : GoodName n) (hg : n ≠ ['g']) : l.find n = l'.find n := by
    refine Option.ext fun s => ?_
    rw [hl.find_eq_some_iff hn, hl'.find_eq_some_iff hn]
    refine and_congr_left fun hname => h s ?_
    rw [hname]
    exact hg
  have hsupports {n : Name} (hn : GoodName n) (hg : n ≠ ['g']) : l.supports n = l'.supports n := by
    rw [SubsetList.supports, SubsetList.supports, hfind hn hg]
  have hany {k : Name} (hk : k.isPrefixOf ['g'] = false) :
      l.nodes.any (k.isPrefixOf ·.name) = l'.nodes.any (k.isPrefixOf ·.name) := by
    rw [Bool.eq_iff_iff, List.any_eq_true, List.any_eq_true]
    refine exists_congr fun s => and_congr_left fun hs => h s fun hname => ?_
    rw [hname, hk] at hs
    cases hs
  unfold conflicts conflictQ conflictZvl
  rw [hsupports (n := ['e']) (by decide) (by decide), hsupports (n := ['h']) (by decide) (by decide),
    hfind (n := ['q']) (by decide) (by decide), hsupports (n := "zcf".toList) (by decide) (by decide),
    hsupports (n := "zfinx".toList) (by decide) (by decide), hsupports (n := ['f']) (by decide) (by decide),
    hsupports (n := "xtheadvector".toList) (by decide) (by decide), hsupports (n := ['v']) (by decide) (by decide),
    hany (k := "zvl".toList) (by decide), hany (k := "zve".toList) (by decide)]

variable {arch : List Char} {st st' : ParseState} {ts : List Token}

/-- A string without errors leaves a list that starts with the base. -/
theorem ArchForm.head_base {xlen : Nat} (hform : ArchForm rps arch xlen ts) (hacc : Accepted rps ts st st')
    (hempty : st.list = {}) (herrors : st'.errors = st.errors) :
    ∃ s rest, st'.list.nodes = s :: rest ∧ (s.name = ['e'] ∨ s.name = ['i']) := by
  obtain ⟨t, rest, rfl, hbase⟩ := hform.first
  have hnone : tokenErrors rps t = [] := by
    have happ := hacc.errors
    rw [herrors] at happ
    have hnil := List.self_eq_append_right.mp happ
    exact List.flatMap_eq_nil_iff.mp hnil t List.mem_cons_self
  have hentry : ∃ s, tokenEntry rps t = some s := by
    rw [← Option.isSome_iff_exists]
    by_contra hsome
    have hletter : t.name.head? ≠ some 'x' ∧ t.name ≠ "zicsr".toList ∧ t.name ≠ "zifencei".toList := by
      rcases hbase with h | h | h <;> rw [h] <;> decide
    rw [tokenErrors, if_neg hsome, if_neg hletter.1, if_pos hletter.2] at hnone
    cases hnone
  obtain ⟨s, hs⟩ := hentry
  have hname := tokenEntry_name hs
  have hself : riscvCompareSubsets s.name s.name = .eq := ReflCmp.compare_self
  have hmem : s ∈ st'.list.nodes := by
    refine hacc.mem_of_entry (n := s.name) hempty ?_
    rw [tokenEntries, List.filterMap_cons_some hs, entry_cons, if_pos hself]
  rw [← hname] at hbase
  rcases hbase with hb | hb | hb
  · exact hacc.parsed.head_base hmem (.inl hb)
  · exact hacc.parsed.head_base hmem (.inr hb)
  · obtain ⟨u, hu, huname⟩ := hacc.implied_mem (r := implies "g" "i") (by decide) rfl hmem hb
    exact hacc.parsed.head_base hu (.inr huname)

/-- Without negative versions, the string written for an accepted one is accepted, gives the same list without g, and
is written again. -/
theorem riscvArchStr_roundTrip (rps : Rps) (arch : List Char) (st st' st₂ : ParseState) (hempty : st.list = {})
    (h : riscvParseSubset rps (some arch) st = (true, st')) (herrors : st'.errors = st.errors)
    (hneg : NoNegative st'.list.nodes) (hi : DefaultI rps.isaSpec st'.list.nodes) (hg : WithoutG st'.list.nodes)
    (hempty₂ : st₂.list = {}) :
    ∃ st₂', riscvParseSubset rps (some (riscvArchStr st'.xlen st'.list)) st₂ = (true, st₂') ∧
      st₂'.errors = st₂.errors ∧ st₂'.xlen = st'.xlen ∧
      st₂'.list.nodes = st'.list.nodes.filter (·.name ≠ ['g']) ∧
      riscvArchStr st₂'.xlen st₂'.list = riscvArchStr st'.xlen st'.list := by
  obtain ⟨xlen, ts, hform, rfl, hnone⟩ := riscvParseSubset_eq_true_iff.mp h
  have hl : st.list.Parsed := hempty ▸ .nil
  obtain ⟨hacc, hxlen⟩ := hform.accepted hl
  set st' := riscvParseAddImplicitSubsets rps (namedState rps xlen ts st)
  obtain ⟨base, hnodes⟩ := hform.nodes hacc hempty
  obtain ⟨s, rest, hcons, hbase⟩ := hform.head_base hacc hempty herrors
  have hxlens : st'.xlen = 32 ∨ st'.xlen = 64 := by
    obtain ⟨p, hp, -⟩ := hform.form
    rw [hxlen]
    exact (archXlen_suffix hp).2
  have htext : riscvArchStr st'.xlen st'.list =
      'r' :: 'v' :: Nat.toDigits 10 st'.xlen ++ (shownNodes st'.list.nodes).flatMap archItem := by
    rw [riscvArchStr, riscvArchStr1_eq hacc.parsed.ordered hacc.parsed.names]
  rw [hcons] at hnodes hneg hi hg
  have hknown := hnodes.head_known hbase hg
  have hprint := hnodes.printable hbase hknown hneg
  rw [← hcons] at hprint
  obtain ⟨st₂', hparse, hparsed, hclosure, hx, herr⟩ := hprint.parse hxlens hempty₂
  rw [hcons] at hclosure
  have heq := hnodes.closure_shown hi hg hknown hparsed.ordered hclosure
  rw [← hcons] at heq
  have hnone₂ : NoConflict st₂'.list st₂'.xlen := by
    have hsame : ∀ t : Subset, t.name ≠ ['g'] → (t ∈ st'.list.nodes ↔ t ∈ st₂'.list.nodes) := by
      intro t ht
      rw [heq, List.mem_filter, decide_eq_true_iff]
      exact ⟨fun hmem => ⟨hmem, ht⟩, fun hmem => hmem.1⟩
    rw [NoConflict, ← conflicts_congr hacc.parsed hparsed hsame, hx]
    exact hnone
  refine ⟨st₂', ?_, herr, hx, heq, ?_⟩
  · rw [htext, hparse, riscvParseCheckConflicts_of_noConflict hnone₂]
  · -- g is not written, so leaving it out changes nothing
    have hshown : shownNodes st₂'.list.nodes = shownNodes st'.list.nodes := by
      have hsg : s.name ≠ ['g'] := by rcases hbase with hb | hb <;> rw [hb] <;> decide
      have hkeep : (s :: rest).filter (·.name ≠ ['g']) = s :: rest.filter (·.name ≠ ['g']) :=
        List.filter_cons_of_pos (decide_eq_true hsg)
      rw [heq, hcons, hkeep, shownNodes, shownNodes, List.filter_filter]
      congr 1
      refine List.filter_congr fun t ht => ?_
      rw [Bool.and_eq_left_iff_imp]
      intro hshown
      rw [Subset.shown, Bool.and_eq_true, Bool.not_eq_true'] at hshown
      exact decide_eq_true (hnodes.known_ne_g (List.mem_cons_of_mem s ht) hshown.1)
    rw [htext, riscvArchStr, riscvArchStr1_eq hparsed.ordered hparsed.names, hshown, hx]

/-- The string of `rv64g`. -/
theorem rv64g_roundTrip : ∃ st', riscvParseSubset ⟨some .c20191213, true⟩ (some "rv64g".toList) {} = (true, st') ∧
    ∃ st₂, riscvParseSubset ⟨some .c20191213, true⟩ (some (riscvArchStr st'.xlen st'.list)) {} = (true, st₂) ∧
      st₂.list.nodes = st'.list.nodes.filter (·.name ≠ ['g']) := by
  obtain ⟨st', hst', herrors, hneg, hi, hg⟩ : ∃ st',
      riscvParseSubset ⟨some .c20191213, true⟩ (some "rv64g".toList) {} = (true, st') ∧ st'.errors = [] ∧
        NoNegative st'.list.nodes ∧ (∀ s ∈ st'.list.nodes, s.name ≠ ['e']) ∧
        ∀ r ∈ riscvImplicitSubsets, r.subsetName = ['g'] →
          ∃ s ∈ st'.list.nodes, s.name = r.implicitName ∧ s.unknown = false :=
    ⟨(riscvParseSubset ⟨some .c20191213, true⟩ (some "rv64g".toList) {}).2, by decide +kernel⟩
  have hdefault : DefaultI (some .c20191213) st'.list.nodes := by
    rintro ⟨s, hs, hname⟩
    exact absurd hname (hi s hs)
  obtain ⟨st₂, hparse, -, -, hnodes, -⟩ := riscvArchStr_roundTrip ⟨some .c20191213, true⟩ _ {} st' {} rfl hst'
    herrors hneg hdefault (fun _ r hr hsub => .inl (hg r hr hsub)) rfl
  exact ⟨st', hst', st₂, hparse, hnodes⟩

/-- The string of `rv64g` does not name g. -/
theorem rv64g_loses_g :
    let first := riscvParseSubset ⟨some .c20191213, true⟩ (some "rv64g".toList) {}
    let second := riscvParseSubset ⟨some .c20191213, true⟩ (some (riscvArchStr first.2.xlen first.2.list)) {}
    first.1 = true ∧ first.2.errors = [] ∧
      second.2.list.nodes.map (·.name) ≠ first.2.list.nodes.map (·.name) := by
  decide +kernel

end RoundTrip

end RiscvBinutils.Isa
