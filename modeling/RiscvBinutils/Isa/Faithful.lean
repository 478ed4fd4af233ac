/-
When an accepted ISA string is recorded as it stands (bfd/elfxx-riscv.c, `riscv_parse_add_subset`): a missing
version is reported, but the string is accepted and the extension left out.
-/
import RiscvBinutils.Isa.Written

namespace RiscvBinutils.Isa

open Std RiscvBinutils.Base

/-! ## What is read and what is recorded -/

/-- The extensions that the parser reads, in the order of the string. -/
def archTokens (rps : Rps) (arch : List Char) : List Token :=
  match archXlen arch with
  | some (_, p) => (scanExtensions rps.checkUnknownPrefixedExt arch p.length p).1
  | none => []

/-- The extension is read with a version. -/
def Token.Versioned (t : Token) : Prop := t.major ≠ riscvUnknownVersion ∧ t.minor ≠ riscvUnknownVersion

instance (t : Token) : Decidable t.Versioned := inferInstanceAs (Decidable (_ ∧ _))

/-- The version with which an extension that was read is recorded; g has none. -/
def Token.recorded (isaSpec : Option IsaSpecClass) (t : Token) : Option (Int × Int) :=
  if t.name = ['g'] then some (riscvUnknownVersion, riscvUnknownVersion)
  else if t.Versioned then some (t.major, t.minor)
  else riscvGetDefaultExtVersion isaSpec t.name

/-- The version that is recorded for a name: that of the first extension of this name which is recorded. -/
def firstRecorded (isaSpec : Option IsaSpecClass) (ts : List Token) (n : Name) : Option (Int × Int) :=
  ts.findSome? fun t => if t.name = n then t.recorded isaSpec else none

/-! ## Faithful lists -/

/-- The first place where the string names this extension. -/
def FirstNamed (ws : List WrittenExtension) (x : WrittenExtension) : Prop :=
  ∃ pre post, ws = pre ++ x :: post ∧ ∀ y ∈ pre, y.name ≠ x.name

/-- The version it is given there, or the default version; g has none. -/
def claimedVersion (isaSpec : Option IsaSpecClass) (x : WrittenExtension) : Option (Int × Int) :=
  match x.stated with
  | some v => some (v.1, v.2)
  | none =>
    if x.name = ['g'] then some (riscvUnknownVersion, riscvUnknownVersion)
    else riscvGetDefaultExtVersion isaSpec x.name

/-- zicsr and zifencei, which the 2.2 specification does not have. -/
def Excepted (isaSpec : Option IsaSpecClass) (x : WrittenExtension) : Prop :=
  isaSpec = some .c2p2 ∧ (x.name = "zicsr".toList ∨ x.name = "zifencei".toList) ∧ x.stated = none

/-- The list records what the string says, and starts with the base. -/
structure Faithful (isaSpec : Option IsaSpecClass) (ws : List WrittenExtension) (l : SubsetList) : Prop where
  head : ∃ s rest, l.nodes = s :: rest ∧ (s.name = ['e'] ∨ s.name = ['i'])
  named : ∀ x, FirstNamed ws x → ¬Excepted isaSpec x →
    ∃ v, claimedVersion isaSpec x = some v ∧ ⟨x.name, v.1, v.2⟩ ∈ l.nodes

/-- Every extension has a version where it is first named, or a default version, the parser reads this version for
its name, and the order tells the names apart. -/
structure Recordable (isaSpec : Option IsaSpecClass) (ws : List WrittenExtension) (ts : List Token) : Prop where
  versions : ∀ x, FirstNamed ws x → ¬Excepted isaSpec x →
    ∃ v, claimedVersion isaSpec x = some v ∧ firstRecorded isaSpec ts x.name = some v
  apart : ∀ x ∈ ws, ∀ y ∈ ws, riscvCompareSubsets x.name y.name = .eq → x.name = y.name

/-! ## Default versions -/

section Default

/-- Every default version is one that can be read, and is not negative. -/
theorem default_ok {isaSpec : Option IsaSpecClass} {n : Name} {v : Int × Int}
    (h : riscvGetDefaultExtVersion isaSpec n = some v) : 0 ≤ v.1 ∧ 0 ≤ v.2 ∧ TokenVersion v.1 v.2 := by
  have htable : ∀ c : PrefixClass, ∀ e ∈ c.supported, e.isaSpecClass ≠ .none →
      (0 ≤ e.major ∧ e.major ≤ intMax) ∧ (0 ≤ e.minor ∧ e.minor ≤ intMax) ∧ ¬(e.major = 0 ∧ e.minor = 0) := by
    intro c
    cases c <;> decide +kernel
  unfold riscvGetDefaultExtVersion at h
  split at h
  · cases h
  · cases h
  · rename_i spec hspec
    obtain ⟨e, he, rfl⟩ := Option.map_eq_some_iff.mp h
    have hnone : e.isaSpecClass ≠ .none := by
      intro hnone
      have hfound := List.find?_some he
      have hcond := of_decide_eq_true hfound
      rw [hnone] at hcond
      rcases hcond.2 with h | h
      · cases h
      · exact hspec (by rw [← h])
    obtain ⟨⟨hmajor, hmajor'⟩, ⟨hminor, hminor'⟩, hne⟩ := htable _ e (List.mem_of_find?_eq_some he) hnone
    refine ⟨hmajor, hminor, ⟨?_, hmajor'⟩, ⟨?_, hminor'⟩, hne⟩
    · exact Int.le_trans (by decide) hmajor
    · exact Int.le_trans (by decide) hminor

theorem default_known {isaSpec : Option IsaSpecClass} {n : Name} {v : Int × Int}
    (h : riscvGetDefaultExtVersion isaSpec n = some v) :
    v.1 ≠ riscvUnknownVersion ∧ v.2 ≠ riscvUnknownVersion := by
  obtain ⟨hmajor, hminor, -⟩ := default_ok h
  unfold riscvUnknownVersion
  omega

/-- g has no default version. -/
theorem default_g (isaSpec : Option IsaSpecClass) : riscvGetDefaultExtVersion isaSpec ['g'] = none := by
  match isaSpec with
  | none => rfl
  | some .none => rfl
  | some .c2p2 => decide
  | some .c20190608 => decide
  | some .c20191213 => decide
  | some .draft => decide

end Default

/-! ## Entries of the extensions named -/

section Named

variable {rps : Rps} {ts : List Token} {t : Token} {ws : List WrittenExtension} {x : WrittenExtension}

theorem tokenEntry_g (h : t.name = ['g']) :
    tokenEntry rps t = some ⟨['g'], riscvUnknownVersion, riscvUnknownVersion⟩ := by
  rw [tokenEntry, if_pos h, h, impliedEntry, resolveVersion, if_pos (.inl rfl), default_g]
  rfl

/-- An extension makes the entry with the version recorded for it. -/
theorem tokenEntry_eq (rps : Rps) (t : Token) :
    tokenEntry rps t = (t.recorded rps.isaSpec).map fun v => ⟨t.name, v.1, v.2⟩ := by
  by_cases hg : t.name = ['g']
  · rw [tokenEntry_g hg, Token.recorded, if_pos hg, hg]
    rfl
  · rw [Token.recorded, if_neg hg, tokenEntry, if_neg hg]
    by_cases hv : t.Versioned
    · have hresolve : resolveVersion rps.isaSpec t.name t.major t.minor = (t.major, t.minor) :=
        if_neg (not_or_intro hv.1 hv.2)
      rw [if_pos hv, hresolve]
      exact if_neg (not_or_intro hv.1 hv.2)
    · have hunknown : t.major = riscvUnknownVersion ∨ t.minor = riscvUnknownVersion := by
        rwa [Token.Versioned, not_and_or, not_not, not_not] at hv
      have hresolve : resolveVersion rps.isaSpec t.name t.major t.minor =
          (riscvGetDefaultExtVersion rps.isaSpec t.name).getD (t.major, t.minor) := if_pos hunknown
      rw [if_neg hv, hresolve]
      cases hdef : riscvGetDefaultExtVersion rps.isaSpec t.name with
      | none => exact if_pos hunknown
      | some v =>
        obtain ⟨h1, h2⟩ := default_known hdef
        exact if_neg (not_or_intro h1 h2)

theorem firstNamed_exists (hx : x ∈ ws) : ∃ x₀, FirstNamed ws x₀ ∧ x₀.name = x.name := by
  induction ws with
  | nil => cases hx
  | cons y ws ih =>
    by_cases hy : y.name = x.name
    · exact ⟨y, ⟨[], ws, rfl, by simp⟩, hy⟩
    · have hx' : x ∈ ws := (List.mem_cons.mp hx).resolve_left fun h => hy (by rw [h])
      obtain ⟨x₀, ⟨pre, post, rfl, hpre⟩, hname⟩ := ih hx'
      refine ⟨x₀, ⟨y :: pre, post, rfl, ?_⟩, hname⟩
      intro w hw
      rcases List.mem_cons.mp hw with rfl | hw
      · rw [hname]
        exact hy
      · exact hpre w hw

theorem FirstNamed.mem (h : FirstNamed ws x) : x ∈ ws := by
  obtain ⟨pre, post, rfl, -⟩ := h
  exact List.mem_append_right pre List.mem_cons_self

/-- When the order tells the names apart, an entry has the version that is recorded for its name. -/
theorem entry_tokenEntries (n : Name) (hapart : ∀ t ∈ ts, riscvCompareSubsets t.name n = .eq → t.name = n) :
    entry n (tokenEntries rps ts) = (firstRecorded rps.isaSpec ts n).map fun v => ⟨n, v.1, v.2⟩ := by
  have hself : riscvCompareSubsets n n = .eq := ReflCmp.compare_self
  induction ts with
  | nil => rfl
  | cons t ts ih =>
    have hrest := ih fun u hu => hapart u (List.mem_cons_of_mem t hu)
    rw [tokenEntries] at hrest ⊢
    rw [firstRecorded] at hrest ⊢
    rw [List.findSome?_cons, List.filterMap_cons, tokenEntry_eq]
    by_cases hname : t.name = n
    · rw [if_pos hname]
      cases hrec : t.recorded rps.isaSpec with
      | none => exact hrest
      | some v =>
        rw [Option.map_some, entry_cons, hname, if_pos hself]
        rfl
    · have hne : riscvCompareSubsets t.name n ≠ .eq := fun heq => hname (hapart t List.mem_cons_self heq)
      rw [if_neg hname]
      cases t.recorded rps.isaSpec with
      | none => exact hrest
      | some v =>
        rw [Option.map_some, entry_cons, if_neg hne]
        exact hrest

end Named

/-! ## The base -/

section Base

variable {rps : Rps} {arch : List Char} {l : SubsetList}

/-- The first extension is the base. -/
theorem ArchForm.first {xlen : Nat} {ts : List Token} (h : ArchForm rps arch xlen ts) :
    ∃ t rest, ts = t :: rest ∧ (t.name = ['e'] ∨ t.name = ['i'] ∨ t.name = ['g']) := by
  obtain ⟨p, -, hfirst, hscan⟩ := h.form
  cases p with
  | nil => rcases hfirst with h | h | h <;> cases h
  | cons c q =>
    have hc : c = 'e' ∨ c = 'i' ∨ c = 'g' := by simpa using hfirst
    have hletter : c ≠ '_' ∧ riscvGetPrefixClass (c :: q) = .single ∧ riscvExtOrder c ≠ 0 := by
      rcases hc with rfl | rfl | rfl <;> exact ⟨by decide, rfl, by decide⟩
    rw [List.length_cons, scanExtensions, if_neg hletter.1, nextToken, hletter.2.1] at hscan
    dsimp only at hscan
    rw [if_neg hletter.2.2] at hscan
    dsimp only at hscan
    rw [if_neg (by simp)] at hscan
    refine ⟨_, _, (congrArg Prod.fst hscan).symm, ?_⟩
    rcases hc with rfl | rfl | rfl
    · exact .inl rfl
    · exact .inr (.inl rfl)
    · exact .inr (.inr rfl)

/-- An e stands first. -/
theorem eq_head_of_e {s t : Subset} {rest : List Subset} (hord : Ordered riscvCompareSubsets Subset.name (s :: rest))
    (ht : t ∈ s :: rest) (hname : t.name = ['e']) : t = s := by
  rcases List.mem_cons.mp ht with rfl | ht
  · rfl
  · have hlt := (List.pairwise_cons.mp hord).1 t ht
    rw [hname] at hlt
    exact absurd hlt not_lt_e

/-- A list with a base starts with one. -/
theorem SubsetList.Parsed.head_base (hl : l.Parsed) {b : Subset} (hb : b ∈ l.nodes)
    (hname : b.name = ['e'] ∨ b.name = ['i']) :
    ∃ s rest, l.nodes = s :: rest ∧ (s.name = ['e'] ∨ s.name = ['i']) := by
  cases hnodes : l.nodes with
  | nil =>
    rw [hnodes] at hb
    cases hb
  | cons s rest =>
    refine ⟨s, rest, rfl, ?_⟩
    have hord := hl.ordered
    rw [hnodes] at hb hord
    rcases List.mem_cons.mp hb with rfl | hb
    · exact hname
    · have hlt := (List.pairwise_cons.mp hord).1 b hb
      have hparsed := hl.names s (by rw [hnodes]; exact List.mem_cons_self)
      rcases hname with h | h <;> rw [h] at hlt
      · exact absurd hlt not_lt_e
      · exact .inl (eq_e_of_lt_i hparsed hlt)

end Base

/-! ## Faithful parses -/

section Faithful

variable {rps : Rps} {arch : List Char} {st st' : ParseState} {ts : List Token}

theorem ArchForm.archTokens_eq {xlen : Nat} (h : ArchForm rps arch xlen ts) : archTokens rps arch = ts := by
  obtain ⟨p, hxlen, -, hscan⟩ := h.form
  rw [archTokens, hxlen]
  dsimp only
  rw [hscan]

/-- The names that are read from a string of the right form are those that it names. -/
theorem ArchForm.names {xlen : Nat} (h : ArchForm rps arch xlen ts) : NamesAgree ts (archExtensions arch) := by
  obtain ⟨p, hxlen, -, hscan⟩ := h.form
  rw [archExtensions, hxlen]
  exact scanExtensions_names (lower_of_archXlen h.lower hxlen) (Nat.le_refl _) hscan

/-- A name that can be written is a p, or was read. -/
theorem ArchForm.clean {xlen : Nat} (h : ArchForm rps arch xlen ts) {x : WrittenExtension}
    (hx : x ∈ archExtensions arch) : ParsedName x.name := by
  rcases h.names.read x hx with hp | ⟨t, ht, hname⟩
  · rw [hp]
    exact (cleanName_single (by decide)).parsed
  · rw [← hname]
    exact (h.tokens t ht).1.parsed

/-- The first extension that is named is the base. -/
theorem ArchForm.firstNamed {xlen : Nat} (h : ArchForm rps arch xlen ts) :
    ∃ x, FirstNamed (archExtensions arch) x ∧ (x.name = ['e'] ∨ x.name = ['i'] ∨ x.name = ['g']) := by
  obtain ⟨p, hxlen, hfirst, -⟩ := h.form
  have hws : archExtensions arch = extensionsOf p := by
    rw [archExtensions, hxlen]
    rfl
  cases p with
  | nil => rcases hfirst with h | h | h <;> cases h
  | cons c q =>
    have hc : c = 'e' ∨ c = 'i' ∨ c = 'g' := by simpa using hfirst
    have hne : c ≠ '_' := by rcases hc with rfl | rfl | rfl <;> decide
    have hname : extensionName (c :: q) = [c] := by rcases hc with rfl | rfl | rfl <;> rfl
    rw [hws, extensionsOf_cons hne]
    refine ⟨_, ⟨[], _, rfl, by simp⟩, ?_⟩
    rw [hname]
    rcases hc with rfl | rfl | rfl
    · exact .inl rfl
    · exact .inr (.inl rfl)
    · exact .inr (.inr rfl)

theorem goodName_zicsr : GoodName "zicsr".toList ∧ GoodName "zifencei".toList := by decide

/-- What is excepted is told apart from everything in the string. -/
theorem Excepted.eq_of_compare {x : WrittenExtension} {n : Name} (h : Excepted rps.isaSpec x) (hn : ParsedName n)
    (hcmp : riscvCompareSubsets x.name n = .eq) : x.name = n := by
  rcases h.2.1 with hname | hname
  · rw [hname] at hcmp ⊢
    exact goodName_zicsr.1.eq_of_compare hn hcmp
  · rw [hname] at hcmp ⊢
    exact goodName_zicsr.2.eq_of_compare hn hcmp

/-- In a faithful list the names of the string are told apart. -/
theorem Faithful.apart {ws : List WrittenExtension} (hf : Faithful rps.isaSpec ws st'.list) (hl : st'.list.Parsed)
    (hclean : ∀ x ∈ ws, ParsedName x.name) {x y : WrittenExtension} (hx : x ∈ ws) (hy : y ∈ ws)
    (hcmp : riscvCompareSubsets x.name y.name = .eq) : x.name = y.name := by
  obtain ⟨x₀, hx₀, hxname⟩ := firstNamed_exists hx
  obtain ⟨y₀, hy₀, hyname⟩ := firstNamed_exists hy
  by_cases hxe : Excepted rps.isaSpec x₀
  · rw [← hxname] at hcmp ⊢
    exact hxe.eq_of_compare (hclean y hy) hcmp
  · by_cases hye : Excepted rps.isaSpec y₀
    · rw [← hyname] at hcmp ⊢
      exact (hye.eq_of_compare (hclean x hx) (OrientedCmp.eq_symm hcmp)).symm
    · obtain ⟨v, -, hv⟩ := hf.named x₀ hx₀ hxe
      obtain ⟨w, -, hw⟩ := hf.named y₀ hy₀ hye
      have hentry : entry x₀.name st'.list.nodes = _ := entry_of_mem hl.ordered hv
      have hentry' : entry y₀.name st'.list.nodes = _ := entry_of_mem hl.ordered hw
      rw [← hxname, ← hyname] at hcmp
      have hsame : entry x₀.name st'.list.nodes = entry y₀.name st'.list.nodes := findKey_congr hcmp _
      rw [hsame, hentry'] at hentry
      rw [← hxname, ← hyname]
      exact (congrArg Subset.name (Option.some.inj hentry)).symm

theorem Accepted.mem_of_entry (h : Accepted rps ts st st') (hempty : st.list = {}) {n : Name} {s : Subset}
    (hs : entry n (tokenEntries rps ts) = some s) : s ∈ st'.list.nodes := by
  obtain ⟨nodes, hord, -, hentry, hclosure⟩ := h.closure
  have hbase : entry n nodes = some s := by
    rw [hentry, hempty]
    exact hs
  exact (hclosure s).mpr ⟨.base (entry_mem hbase), (recorded_of_mem hord (entry_mem hbase)).symm⟩

theorem Accepted.implied_mem (h : Accepted rps ts st st') {r : ImplicitSubset} (hr : r ∈ riscvImplicitSubsets)
    (hcheck : r.check = .always) {s : Subset} (hs : s ∈ st'.list.nodes) (hname : s.name = r.subsetName) :
    ∃ u ∈ st'.list.nodes, u.name = r.implicitName := by
  obtain ⟨nodes, hord, hnames, -, hclosure⟩ := h.closure
  have hparsed : SubsetList.Parsed { nodes, tail := nodes.getLast?.map (·.name) } := ⟨⟨hord, rfl⟩, hnames⟩
  have hleast : LeastClosure riscvImplicitSubsets nodes st'.list.nodes :=
    IsClosure.leastClosure riscvImplicitSubsets_good hparsed h.parsed.ordered hclosure
  exact hleast.closed r hr s hs hname (by rw [hcheck]; rfl)

/-- The table implies no p. -/
theorem riscvImplicitSubsets_no_p : ∀ r ∈ riscvImplicitSubsets, r.implicitName ≠ ['p'] := by decide +kernel

/-- What is in the list without being recorded is implied, and has the default version. -/
theorem Accepted.implied_of_entry_none (h : Accepted rps ts st st') (hempty : st.list = {}) {s : Subset}
    (hs : s ∈ st'.list.nodes) (hnone : entry s.name (tokenEntries rps ts) = none) :
    (∃ r ∈ riscvImplicitSubsets, r.implicitName = s.name) ∧ s = impliedEntry rps.isaSpec s.name := by
  obtain ⟨nodes, hord, -, hentry, hclosure⟩ := h.closure
  obtain ⟨himp, hrec⟩ := (hclosure s).mp hs
  have hbase : entry s.name nodes = none := by
    rw [hentry, hempty]
    exact hnone
  refine ⟨?_, ?_⟩
  · generalize hn : s.name = n at himp
    cases himp with
    | @base u hu =>
      rw [hn, entry_of_mem hord hu] at hbase
      cases hbase
    | @row r hr _ _ => exact ⟨r, hr, rfl⟩
  · rwa [recorded, hbase, Option.getD_none] at hrec

/-- A version that is claimed is not that of an entry without one. -/
theorem claimedVersion_unknown {isaSpec : Option IsaSpecClass} {x : WrittenExtension} (hg : x.name ≠ ['g'])
    (hdefault : riscvGetDefaultExtVersion isaSpec x.name = none) :
    claimedVersion isaSpec x ≠ some (riscvUnknownVersion, riscvUnknownVersion) := by
  rw [claimedVersion]
  cases x.stated with
  | some v =>
    intro heq
    have hmajor := congrArg Prod.fst (Option.some.inj heq)
    unfold riscvUnknownVersion at hmajor
    omega
  | none =>
    rw [if_neg hg, hdefault]
    exact Option.some_ne_none _ |>.symm

/-- Only the base, g and what has a version or a default version is recorded. -/
theorem firstRecorded_eq_none {isaSpec : Option IsaSpecClass} {n : Name} (h : firstRecorded isaSpec ts n = none)
    {t : Token} (ht : t ∈ ts) (hname : t.name = n) :
    n ≠ ['g'] ∧ riscvGetDefaultExtVersion isaSpec n = none := by
  have hnone := List.findSome?_eq_none_iff.mp h t ht
  rw [if_pos hname, Token.recorded, hname] at hnone
  split at hnone
  · cases hnone
  · rename_i hg
    split at hnone
    · cases hnone
    · exact ⟨hg, hnone⟩

/-- What is recorded for an extension whose version is plain. -/
theorem WrittenExtension.token_recorded (isaSpec : Option IsaSpecClass) (x : WrittenExtension) :
    x.token.recorded isaSpec = if x.name = ['g'] then some (riscvUnknownVersion, riscvUnknownVersion)
      else claimedVersion isaSpec x := by
  have hname : x.token.name = x.name := rfl
  rw [Token.recorded, hname]
  split
  · rfl
  · rename_i hg
    rw [claimedVersion]
    cases hv : x.stated with
    | some v =>
      have htoken : x.token = ⟨x.name, v.1, v.2⟩ := by
        rw [WrittenExtension.token, hv]
        rfl
      have hversioned : x.token.Versioned := by
        rw [htoken]
        unfold Token.Versioned riscvUnknownVersion
        dsimp only
        omega
      rw [if_pos hversioned, htoken]
    | none =>
      have htoken : x.token = ⟨x.name, riscvUnknownVersion, riscvUnknownVersion⟩ := by
        rw [WrittenExtension.token, hv]
        rfl
      have hversioned : ¬x.token.Versioned := by
        rw [htoken]
        exact fun h => h.1 rfl
      rw [if_neg hversioned]
      exact (if_neg hg).symm

/-- The first extension of a name is the one that is recorded, if it is recorded at all. -/
theorem FirstNamed.recorded {isaSpec : Option IsaSpecClass} {ws : List WrittenExtension} {x : WrittenExtension}
    (h : FirstNamed ws x) {v : Int × Int} (hv : x.token.recorded isaSpec = some v) :
    firstRecorded isaSpec (ws.map WrittenExtension.token) x.name = some v := by
  obtain ⟨pre, post, rfl, hpre⟩ := h
  rw [firstRecorded, List.map_append, List.findSome?_append, List.map_cons, List.findSome?_cons]
  have hnone : (pre.map WrittenExtension.token).findSome?
      (fun t => if t.name = x.name then t.recorded isaSpec else none) = none := by
    rw [List.findSome?_eq_none_iff]
    intro t ht
    obtain ⟨y, hy, rfl⟩ := List.mem_map.mp ht
    exact if_neg (hpre y hy)
  have hname : x.token.name = x.name := rfl
  rw [hnone, Option.none_or, if_pos hname, hv]

/-- Where every version is plain, a string can be recorded exactly if every extension but g has a version where it is
first named, or a default version, g has none there, and the order tells the names apart. -/
theorem recordable_iff_of_plain (h : riscvParseSubset rps (some arch) st = (true, st'))
    (hplain : ∀ x ∈ archExtensions arch, x.Plain) :
    Recordable rps.isaSpec (archExtensions arch) (archTokens rps arch) ↔
      (∀ x, FirstNamed (archExtensions arch) x → ¬Excepted rps.isaSpec x →
        (claimedVersion rps.isaSpec x).isSome = true ∧ (x.name = ['g'] → x.stated = none)) ∧
      ∀ x ∈ archExtensions arch, ∀ y ∈ archExtensions arch,
        riscvCompareSubsets x.name y.name = .eq → x.name = y.name := by
  obtain ⟨xlen, ts, hform, -, -⟩ := riscvParseSubset_eq_true_iff.mp h
  obtain ⟨p, hxlen, -, hscan⟩ := hform.form
  have hws : archExtensions arch = extensionsOf p := by
    rw [archExtensions, hxlen]
    rfl
  have hts : ts = (archExtensions arch).map WrittenExtension.token := by
    rw [hws] at hplain ⊢
    exact scanExtensions_plain (lower_of_archXlen hform.lower hxlen) (Nat.le_refl _) hplain hscan
  rw [hform.archTokens_eq, hts]
  constructor
  · rintro ⟨hversions, hapart⟩
    refine ⟨fun x hx hexc => ?_, hapart⟩
    obtain ⟨v, hv, hrec⟩ := hversions x hx hexc
    refine ⟨by rw [hv]; rfl, fun hg => ?_⟩
    -- g is recorded without a version
    have htoken := x.token_recorded rps.isaSpec
    rw [if_pos hg] at htoken
    rw [hx.recorded htoken] at hrec
    rw [claimedVersion] at hv
    cases hstated : x.stated with
    | none => rfl
    | some w =>
      rw [hstated, ← hrec] at hv
      have hmajor := congrArg Prod.fst (Option.some.inj hv)
      unfold riscvUnknownVersion at hmajor
      omega
  · rintro ⟨hversions, hapart⟩
    refine ⟨fun x hx hexc => ?_, hapart⟩
    obtain ⟨hsome, hg⟩ := hversions x hx hexc
    obtain ⟨v, hv⟩ := Option.isSome_iff_exists.mp hsome
    refine ⟨v, hv, hx.recorded ?_⟩
    rw [x.token_recorded]
    split
    · rename_i hname
      rw [claimedVersion, hg hname] at hv
      exact (if_pos hname).symm.trans hv
    · exact hv

end Faithful

end RiscvBinutils.Isa
