/-
Implied extensions (bfd/elfxx-riscv.c, `riscv_parse_add_implicit_subsets`): the loop ends, adds exactly what the
rows of the table demand, changes nothing that was there, and the order of the rows does not matter.
-/
import RiscvBinutils.Isa.Parse

namespace RiscvBinutils.Isa

open Std RiscvBinutils.Base

/-! ## What the rows demand -/

section Demand

variable (isaSpec : Option IsaSpecClass) (rows : List ImplicitSubset) (nodes : List Subset)

/-- The entry that `riscv_parse_add_subset` makes for an implied extension. -/
def impliedEntry (n : Name) : Subset :=
  let v := resolveVersion isaSpec n riscvUnknownVersion riscvUnknownVersion
  ⟨n, v.1, v.2⟩

/-- The entry with this name: the one in the list, or the one that would be made. -/
def recorded (n : Name) : Subset := (entry n nodes).getD (impliedEntry isaSpec n)

/-- The extensions that the rows demand: what a chain of rows leads to from the list. -/
inductive Implied : Name → Prop
  | base {s : Subset} (hs : s ∈ nodes) : Implied s.name
  | row {r : ImplicitSubset} (hr : r ∈ rows) (hsubset : Implied r.subsetName)
      (hcheck : r.check.holds (recorded isaSpec nodes r.subsetName) = true) : Implied r.implicitName

variable {isaSpec rows nodes}

theorem Implied.mono {rows' : List ImplicitSubset} (h : ∀ r ∈ rows, r ∈ rows') {n : Name}
    (hn : Implied isaSpec rows nodes n) : Implied isaSpec rows' nodes n := by
  induction hn with
  | base hs => exact .base hs
  | row hr _ hcheck ih => exact .row (h _ hr) ih hcheck

theorem recorded_of_mem (hord : Ordered riscvCompareSubsets Subset.name nodes) {s : Subset} (hs : s ∈ nodes) :
    recorded isaSpec nodes s.name = s := by
  rw [recorded, entry_of_mem hord hs, Option.getD_some]

/-- A list that holds exactly what the rows demand. -/
def IsClosure (isaSpec : Option IsaSpecClass) (rows : List ImplicitSubset) (nodes nodes' : List Subset) : Prop :=
  ∀ s, s ∈ nodes' ↔ Implied isaSpec rows nodes s.name ∧ s = recorded isaSpec nodes s.name

end Demand

/-! ## One addition -/

section Loop

variable {rps : Rps} {rows : List ImplicitSubset} {st : ParseState}

/-- The names in the table are told apart from all others. -/
def GoodRows (rows : List ImplicitSubset) : Prop :=
  ∀ r ∈ rows, GoodName r.subsetName ∧ GoodName r.implicitName

theorem riscvParseAddSubset_implicit (subset : Name) :
    riscvParseAddSubset rps st subset riscvUnknownVersion riscvUnknownVersion true =
      { st with
        list := riscvAddSubset st.list subset (impliedEntry rps.isaSpec subset).major
          (impliedEntry rps.isaSpec subset).minor } := by
  rw [riscvParseAddSubset, if_neg (by simp)]
  rfl

theorem fires_iff (hl : st.list.Parsed) {r : ImplicitSubset} (hsubset : GoodName r.subsetName)
    (himplicit : GoodName r.implicitName) :
    r.fires st.list = true ↔
      (∃ s ∈ st.list.nodes, s.name = r.subsetName ∧ r.check.holds s = true) ∧
        ∀ s ∈ st.list.nodes, s.name ≠ r.implicitName := by
  have hsupports : st.list.supports r.implicitName = false ↔ ∀ s ∈ st.list.nodes, s.name ≠ r.implicitName := by
    rw [← Bool.not_eq_true, hl.supports_iff himplicit]
    simp
  unfold ImplicitSubset.fires
  cases hfind : st.list.find r.subsetName with
  | none =>
    constructor
    · intro h
      cases h
    · rintro ⟨⟨s, hs, hname, -⟩, -⟩
      rw [(hl.find_eq_some_iff hsubset s).mpr ⟨hs, hname⟩] at hfind
      cases hfind
  | some s =>
    obtain ⟨hs, hname⟩ := (hl.find_eq_some_iff hsubset s).mp hfind
    rw [decide_eq_true_iff, hsupports]
    constructor
    · rintro ⟨himp, hcheck⟩
      exact ⟨⟨s, hs, hname, hcheck⟩, himp⟩
    · rintro ⟨⟨t, ht, htname, hcheck⟩, himp⟩
      have hfind' := (hl.find_eq_some_iff hsubset t).mpr ⟨ht, htname⟩
      rw [hfind] at hfind'
      cases hfind'
      exact ⟨himp, hcheck⟩

/-- What the loop keeps: everything of the first list is there, and every entry is demanded. -/
structure Growing (rps : Rps) (rows : List ImplicitSubset) (st₀ st : ParseState) : Prop where
  parsed : st.list.Parsed
  kept : ∀ s ∈ st₀.list.nodes, s ∈ st.list.nodes
  demanded : ∀ s ∈ st.list.nodes, Implied rps.isaSpec rows st₀.list.nodes s.name ∧
    s = recorded rps.isaSpec st₀.list.nodes s.name
  archStr : st.list.archStr = st₀.list.archStr
  xlen : st.xlen = st₀.xlen
  errors : st.errors = st₀.errors

/-- The number of rows whose implied extension is missing. -/
def missing (rows : List ImplicitSubset) (st : ParseState) : Nat :=
  rows.countP fun r => st.list.supports r.implicitName = false

theorem countP_lt {α : Type} {p q : α → Bool} {l : List α} (himp : ∀ a ∈ l, p a → q a) {a : α} (ha : a ∈ l)
    (hp : p a = false) (hq : q a = true) : l.countP p < l.countP q := by
  induction l with
  | nil => cases ha
  | cons b l ih =>
    rw [List.countP_cons, List.countP_cons]
    have hle := List.countP_mono_left fun c hc => himp c (List.mem_cons_of_mem b hc)
    rcases List.mem_cons.mp ha with rfl | ha
    · rw [hp, hq]
      exact Nat.lt_succ_of_le hle
    · have hlt := ih (fun c hc => himp c (List.mem_cons_of_mem b hc)) ha
      have hb := himp b List.mem_cons_self
      cases hpb : p b with
      | false => exact Nat.lt_of_lt_of_le hlt (Nat.le_add_right _ _)
      | true =>
        rw [hb hpb]
        exact Nat.succ_lt_succ hlt

theorem riscvAddSubset_archStr (l : SubsetList) (n : Name) (major minor : Int) :
    (riscvAddSubset l n major minor).archStr = l.archStr := by
  unfold riscvAddSubset
  split <;> rfl

/-- One addition keeps the invariant and leaves fewer rows to serve. -/
theorem Growing.add {st₀ : ParseState} (h : Growing rps rows st₀ st) (hrows : GoodRows rows) {r : ImplicitSubset}
    (hr : r ∈ rows) (hfires : r.fires st.list = true) :
    Growing rps rows st₀
        (riscvParseAddSubset rps st r.implicitName riscvUnknownVersion riscvUnknownVersion true) ∧
      missing rows (riscvParseAddSubset rps st r.implicitName riscvUnknownVersion riscvUnknownVersion true) <
        missing rows st := by
  obtain ⟨hsubset, himplicit⟩ := hrows r hr
  obtain ⟨⟨s, hs, hname, hcheck⟩, habsent⟩ := (fires_iff h.parsed hsubset himplicit).mp hfires
  have hnone : entry r.implicitName st.list.nodes = none := by
    cases he : entry r.implicitName st.list.nodes with
    | none => rfl
    | some t => exact absurd (h.parsed.name_of_entry himplicit he) (habsent t (entry_mem he))
  have hnone₀ : entry r.implicitName st₀.list.nodes = none := by
    refine findKey_eq_none_iff.mpr fun a ha => ?_
    exact findKey_eq_none_iff.mp hnone a (h.kept a ha)
  rw [riscvParseAddSubset_implicit]
  set e := impliedEntry rps.isaSpec r.implicitName with he
  have hparsed : (riscvAddSubset st.list r.implicitName e.major e.minor).Parsed :=
    h.parsed.add himplicit.parsed _ _
  have hkeep : ∀ t ∈ st.list.nodes, t ∈ (riscvAddSubset st.list r.implicitName e.major e.minor).nodes :=
    fun t ht => mem_add_of_mem h.parsed.toWf _ _ _ ht
  refine ⟨⟨hparsed, fun t ht => hkeep t (h.kept t ht), ?_, ?_, h.xlen, h.errors⟩, ?_⟩
  · intro t ht
    rcases mem_of_mem_add h.parsed.toWf ht with rfl | ht
    · obtain ⟨himp, hrec⟩ := h.demanded s hs
      rw [hname] at himp hrec
      refine ⟨.row hr himp (by rw [← hrec]; exact hcheck), ?_⟩
      rw [recorded, hnone₀, Option.getD_none]
      rfl
    · exact h.demanded t ht
  · rw [riscvAddSubset_archStr, h.archStr]
  · -- rows served before stay served, and this one is served now
    have hself : ∃ t ∈ (riscvAddSubset st.list r.implicitName e.major e.minor).nodes, t.name = r.implicitName :=
      ⟨_, mem_add_self h.parsed.toWf _ _ hnone, rfl⟩
    refine countP_lt ?_ hr ?_ ?_
    · intro r' hr' hmissing
      have hgood := (hrows r' hr').2
      rw [decide_eq_true_iff, ← Bool.not_eq_true] at hmissing ⊢
      rw [hparsed.supports_iff hgood] at hmissing
      rw [h.parsed.supports_iff hgood]
      rintro ⟨t, ht, htname⟩
      exact hmissing ⟨t, hkeep t ht, htname⟩
    · rw [decide_eq_false_iff_not, Bool.not_eq_false, hparsed.supports_iff himplicit]
      exact hself
    · rw [decide_eq_true_iff, ← Bool.not_eq_true, h.parsed.supports_iff himplicit]
      rintro ⟨t, ht, htname⟩
      exact habsent t ht htname

/-! ## The whole loop -/

theorem Growing.refl (hl : st.list.Parsed) : Growing rps rows st st where
  parsed := hl
  kept _ hs := hs
  demanded _ hs := ⟨.base hs, (recorded_of_mem hl.ordered hs).symm⟩
  archStr := rfl
  xlen := rfl
  errors := rfl

/-- With fuel for the missing rows the loop ends, and then no row is left to serve. -/
theorem implicitLoop_ends {st₀ : ParseState} (hrows : GoodRows rows) {fuel : Nat}
    (h : Growing rps rows st₀ st) (hfuel : missing rows st < fuel) :
    ∃ st', implicitLoop rps rows fuel st = some st' ∧ Growing rps rows st₀ st' ∧
      ∀ r ∈ rows, r.fires st'.list = false := by
  induction fuel generalizing st with
  | zero => exact absurd hfuel (Nat.not_lt_zero _)
  | succ fuel ih =>
    rw [implicitLoop]
    cases hfind : rows.find? (·.fires st.list) with
    | none =>
      refine ⟨st, rfl, h, fun r hr => ?_⟩
      exact Bool.not_eq_true _ ▸ List.find?_eq_none.mp hfind r hr
    | some r =>
      obtain ⟨hgrow, hless⟩ := h.add hrows (List.mem_of_find?_eq_some hfind) (List.find?_some hfind)
      exact ih hgrow (by omega)

theorem missing_le (rows : List ImplicitSubset) (st : ParseState) : missing rows st ≤ rows.length :=
  List.countP_le_length

/-- A list that nothing fires on holds all that is demanded. -/
theorem implied_mem {st₀ : ParseState} (hrows : GoodRows rows) (h : Growing rps rows st₀ st)
    (hdone : ∀ r ∈ rows, r.fires st.list = false) {n : Name}
    (hn : Implied rps.isaSpec rows st₀.list.nodes n) :
    recorded rps.isaSpec st₀.list.nodes n ∈ st.list.nodes ∧ (recorded rps.isaSpec st₀.list.nodes n).name = n := by
  -- an entry of that name is enough, every entry is the recorded one
  suffices hentry : ∃ s ∈ st.list.nodes, s.name = n by
    obtain ⟨s, hs, rfl⟩ := hentry
    rw [← (h.demanded s hs).2]
    exact ⟨hs, rfl⟩
  induction hn with
  | base hs => exact ⟨_, h.kept _ hs, rfl⟩
  | @row r hr _ hcheck ih =>
    obtain ⟨s, hs, hname⟩ := ih
    obtain ⟨hsubset, himplicit⟩ := hrows r hr
    by_contra hnone
    have hfires : r.fires st.list = true := by
      refine (fires_iff h.parsed hsubset himplicit).mpr ⟨⟨s, hs, hname, ?_⟩, ?_⟩
      · rw [(h.demanded s hs).2, hname]
        exact hcheck
      · intro t ht htname
        exact hnone ⟨t, ht, htname⟩
    rw [hdone r hr] at hfires
    cases hfires

/-- What `riscv_parse_add_implicit_subsets` does with any table. -/
theorem addImplicitSubsets_spec (hrows : GoodRows rows) (hl : st.list.Parsed) :
    implicitLoop rps rows (rows.length + 1) st = some (addImplicitSubsets rps rows st) ∧
      Growing rps rows st (addImplicitSubsets rps rows st) ∧
      IsClosure rps.isaSpec rows st.list.nodes (addImplicitSubsets rps rows st).list.nodes := by
  obtain ⟨st', hloop, hgrow, hdone⟩ :=
    implicitLoop_ends hrows (Growing.refl hl) (Nat.lt_succ_of_le (missing_le rows st))
  have heq : addImplicitSubsets rps rows st = st' := by rw [addImplicitSubsets, hloop, Option.getD_some]
  rw [heq]
  refine ⟨hloop, hgrow, fun s => ⟨hgrow.demanded s, ?_⟩⟩
  rintro ⟨hn, hs⟩
  rw [hs]
  exact (implied_mem hrows hgrow hdone hn).1

theorem riscvImplicitSubsets_good : GoodRows riscvImplicitSubsets := by
  unfold GoodRows
  decide +kernel

theorem ParseState.eq_of_nodes {st st' : ParseState} (h : st.list.Wf) (h' : st'.list.Wf)
    (hnodes : st.list.nodes = st'.list.nodes) (harch : st.list.archStr = st'.list.archStr)
    (hxlen : st.xlen = st'.xlen) (herrors : st.errors = st'.errors) : st = st' := by
  have htail : st.list.tail = st'.list.tail := by rw [h.tail, h'.tail, hnodes]
  obtain ⟨⟨nodes, tail, archStr⟩, xlen, errors⟩ := st
  obtain ⟨⟨nodes', tail', archStr'⟩, xlen', errors'⟩ := st'
  cases hnodes
  cases harch
  cases hxlen
  cases herrors
  cases htail
  rfl

/-- Two closures of one list are the same state. -/
theorem Growing.eq_of_isClosure {rows' : List ImplicitSubset} {st₀ st' : ParseState} (h : Growing rps rows st₀ st)
    (h' : Growing rps rows' st₀ st') (hrows : ∀ r, r ∈ rows ↔ r ∈ rows')
    (hc : IsClosure rps.isaSpec rows st₀.list.nodes st.list.nodes)
    (hc' : IsClosure rps.isaSpec rows' st₀.list.nodes st'.list.nodes) : st = st' := by
  have hnodes : st.list.nodes = st'.list.nodes := by
    refine ordered_ext h.parsed.ordered h'.parsed.ordered fun s => ?_
    rw [hc s, hc' s]
    refine and_congr_left fun _ => ⟨fun hn => hn.mono fun r => (hrows r).mp, fun hn => hn.mono fun r => (hrows r).mpr⟩
  exact ParseState.eq_of_nodes h.parsed.toWf h'.parsed.toWf hnodes (h.archStr.trans h'.archStr.symm)
    (h.xlen.trans h'.xlen.symm) (h.errors.trans h'.errors.symm)

/-! ## The least closure -/

/-- `nodes'` is the least extension of `nodes` that serves every row, judged by the versions it records. -/
structure LeastClosure (rows : List ImplicitSubset) (nodes nodes' : List Subset) : Prop where
  kept : ∀ s ∈ nodes, s ∈ nodes'
  unique : ∀ s ∈ nodes', ∀ t ∈ nodes', s.name = t.name → s = t
  closed : ∀ r ∈ rows, ∀ s ∈ nodes', s.name = r.subsetName → r.check.holds s = true →
    ∃ t ∈ nodes', t.name = r.implicitName
  least : ∀ S : Set Name, (∀ s ∈ nodes, s.name ∈ S) →
    (∀ r ∈ rows, r.subsetName ∈ S → (∃ s ∈ nodes', s.name = r.subsetName ∧ r.check.holds s = true) →
      r.implicitName ∈ S) →
    ∀ s ∈ nodes', s.name ∈ S

theorem recorded_name {l : SubsetList} {isaSpec : Option IsaSpecClass} (hl : l.Parsed) {n : Name} (hn : GoodName n) :
    (recorded isaSpec l.nodes n).name = n := by
  rw [recorded]
  cases hentry : entry n l.nodes with
  | none => rfl
  | some s => exact hl.name_of_entry hn hentry

theorem IsClosure.recorded_mem {l : SubsetList} {isaSpec : Option IsaSpecClass} {nodes' : List Subset} (hl : l.Parsed)
    (hc : IsClosure isaSpec rows l.nodes nodes') {n : Name} (hgood : GoodName n)
    (hn : Implied isaSpec rows l.nodes n) : recorded isaSpec l.nodes n ∈ nodes' := by
  refine (hc _).mpr ?_
  rw [recorded_name hl hgood]
  exact ⟨hn, rfl⟩

theorem IsClosure.leastClosure {l : SubsetList} {isaSpec : Option IsaSpecClass} {nodes' : List Subset}
    (hrows : GoodRows rows)
    (hl : l.Parsed) (hord : Ordered riscvCompareSubsets Subset.name nodes')
    (hc : IsClosure isaSpec rows l.nodes nodes') : LeastClosure rows l.nodes nodes' where
  kept := by
    intro s hs
    exact (hc s).mpr ⟨.base hs, (recorded_of_mem hl.ordered hs).symm⟩
  unique := by
    intro s hs t ht hname
    have hentry := entry_of_mem hord hs
    rw [hname, entry_of_mem hord ht] at hentry
    exact (Option.some.inj hentry).symm
  closed := by
    intro r hr s hs hname hcheck
    obtain ⟨himp, hrec⟩ := (hc s).mp hs
    rw [hname] at himp hrec
    have hrow : Implied isaSpec rows l.nodes r.implicitName := .row hr himp (hrec ▸ hcheck)
    exact ⟨_, hc.recorded_mem hl (hrows r hr).2 hrow, recorded_name hl (hrows r hr).2⟩
  least := by
    intro S hbase hrow s hs
    -- along the chain of rows that demands the entry
    suffices hchain : ∀ n, Implied isaSpec rows l.nodes n → n ∈ S from hchain _ ((hc s).mp hs).1
    intro n hn
    induction hn with
    | base hs => exact hbase _ hs
    | @row r hr hsubset hcheck ih =>
      have hgood := (hrows r hr).1
      exact hrow r hr ih ⟨_, hc.recorded_mem hl hgood hsubset, recorded_name hl hgood, hcheck⟩

/-- `riscv_parse_add_implicit_subsets` ends with the least closure under the rows of the table, in whatever
order they stand. -/
theorem riscvParseAddImplicitSubsets_least (rps : Rps) (st : ParseState) (hl : st.list.Parsed) :
    implicitLoop rps riscvImplicitSubsets (riscvImplicitSubsets.length + 1) st =
        some (riscvParseAddImplicitSubsets rps st) ∧
      LeastClosure riscvImplicitSubsets st.list.nodes (riscvParseAddImplicitSubsets rps st).list.nodes ∧
      ∀ rows, rows.Perm riscvImplicitSubsets →
        implicitLoop rps rows (rows.length + 1) st = some (riscvParseAddImplicitSubsets rps st) := by
  obtain ⟨hloop, hgrow, hc⟩ := addImplicitSubsets_spec riscvImplicitSubsets_good hl
  refine ⟨hloop, hc.leastClosure riscvImplicitSubsets_good hl hgrow.parsed.ordered, ?_⟩
  intro rows hperm
  have hrows : GoodRows rows := fun r hr => riscvImplicitSubsets_good r (hperm.mem_iff.mp hr)
  obtain ⟨hloop', hgrow', hc'⟩ := addImplicitSubsets_spec hrows hl
  rw [hloop']
  exact congrArg some (hgrow'.eq_of_isClosure hgrow (fun r => hperm.mem_iff) hc' hc)

/-- The base 2.0 brings what the base 2.1 has split off. -/
theorem riscvParseAddImplicitSubsets_i2p0 :
    LeastClosure riscvImplicitSubsets (riscvAddSubset {} ['i'] 2 0).nodes
      (riscvParseAddImplicitSubsets ⟨none, false⟩ { list := riscvAddSubset {} ['i'] 2 0 }).list.nodes :=
  (riscvParseAddImplicitSubsets_least ⟨none, false⟩ { list := riscvAddSubset {} ['i'] 2 0 }
    (SubsetList.Parsed.nil.add (by decide) 2 0)).2.1

end Loop

end RiscvBinutils.Isa
