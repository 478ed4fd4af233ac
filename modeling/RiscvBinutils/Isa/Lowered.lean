/-
Vendor extensions with upper-case letters (bfd/elfxx-riscv.c, `riscv_update_subset` and `riscv_compare_subsets`).
`.option arch` lets such a name through, and a list finds it by its name in any case.  So what a list implies is what
it implies with its names in lower case.
-/
import RiscvBinutils.Isa.Implied

namespace RiscvBinutils.Isa

open Std RiscvBinutils.Base

/-! ## Names in lower case -/

/-- A name an ISA string can have, or the name of a vendor extension in any case. -/
def StoredName (n : Name) : Prop := ParsedName n ∨ riscvGetPrefixClass n = .x

/-- The name as it is in an ISA string. -/
def lowered (n : Name) : Name := if riscvGetPrefixClass n = .x then n.map toLower else n

section Names

variable {n a b : Name}

theorem isUpper_toLower (c : Char) : isUpper (toLower c) = false := by
  unfold toLower
  split
  · rename_i h
    have hlow : 65 ≤ c.toNat := UInt32.le_iff_toNat_le.mp h.1
    have hhigh : c.toNat ≤ 90 := UInt32.le_iff_toNat_le.mp h.2
    have hletters : ∀ k < 91, 65 ≤ k → isUpper (Char.ofNat (k + 32)) = false := by decide
    exact hletters c.toNat (by omega) hlow
  · rename_i h
    exact decide_eq_false h

theorem toLower_toLower (c : Char) : toLower (toLower c) = toLower c := toLower_of_not_upper (isUpper_toLower c)

theorem lowered_of_ne_x (h : riscvGetPrefixClass n ≠ .x) : lowered n = n := if_neg h

theorem eq_x_of_class (h : riscvGetPrefixClass n = .x) : ∃ rest, n = 'x' :: rest := by
  unfold riscvGetPrefixClass at h
  split at h
  · cases h
  · cases h
  · cases h
  · exact ⟨_, rfl⟩
  · cases h

theorem class_lowered (n : Name) : riscvGetPrefixClass (lowered n) = riscvGetPrefixClass n := by
  unfold lowered
  split
  · rename_i h
    obtain ⟨rest, rfl⟩ := eq_x_of_class h
    rfl
  · rfl

theorem key_lowered (n : Name) :
    rank (lowered n) = rank n ∧ subrank (lowered n) = subrank n ∧ suffixKey (lowered n) = suffixKey n := by
  by_cases hx : riscvGetPrefixClass n = .x
  · obtain ⟨rest, rfl⟩ := eq_x_of_class hx
    have hlower : lowered ('x' :: rest) = 'x' :: rest.map toLower := if_pos hx
    rw [hlower]
    refine ⟨rfl, rfl, ?_⟩
    show (rest.map toLower).map (fun c => (toLower c).toNat) = rest.map fun c => (toLower c).toNat
    rw [List.map_map]
    apply List.map_congr_left
    intro c _
    rw [Function.comp_apply, toLower_toLower]
  · rw [lowered_of_ne_x hx]
    exact ⟨rfl, rfl, rfl⟩

/-- The order does not see the case of a vendor extension. -/
theorem compare_lowered (a b : Name) : riscvCompareSubsets (lowered a) b = riscvCompareSubsets a b := by
  obtain ⟨hrank, hsub, hsuffix⟩ := key_lowered a
  rw [riscvCompareSubsets_eq, riscvCompareSubsets_eq]
  simp only [compareLex, compareOn, hrank, hsub, hsuffix]

theorem compare_lowered_lowered (a b : Name) :
    riscvCompareSubsets (lowered a) (lowered b) = riscvCompareSubsets a b := by
  have hswap (x y : Name) : riscvCompareSubsets x y = (riscvCompareSubsets y x).swap := OrientedCmp.eq_swap
  rw [compare_lowered, hswap, compare_lowered, ← hswap]

theorem StoredName.lowered (h : StoredName n) : ParsedName (lowered n) := by
  by_cases hx : riscvGetPrefixClass n = .x
  · refine .inr ⟨by rw [class_lowered, hx]; decide, ?_⟩
    intro c hc
    rw [Isa.lowered, if_pos hx] at hc
    obtain ⟨d, -, rfl⟩ := List.mem_map.mp hc
    exact isUpper_toLower d
  · rw [lowered_of_ne_x hx]
    exact h.resolve_right hx

/-- A name without upper-case letters stays. -/
theorem ParsedName.lowered_eq (h : ParsedName n) : lowered n = n := by
  unfold Isa.lowered
  split
  · calc n.map toLower = n.map id := List.map_congr_left fun c hc => toLower_of_not_upper (h.lower c hc)
      _ = n := List.map_id n
  · rfl

/-- What is no vendor extension is a name an ISA string can have. -/
theorem StoredName.parsed (h : StoredName n) (hx : riscvGetPrefixClass n ≠ .x) : ParsedName n := h.resolve_right hx

/-- Only e comes before i. -/
theorem StoredName.eq_e_of_lt_i (h : StoredName n) (hlt : riscvCompareSubsets n ['i'] = .lt) : n = ['e'] := by
  have hsingle := class_eq_single_of_headOrder (headOrder_lt_of_lt (by decide) hlt).1
  exact Isa.eq_e_of_lt_i (h.parsed (by rw [hsingle]; decide)) hlt

/-- A name that is the same as a good one up to its case is that one, or both are vendor extensions. -/
theorem GoodName.eq_of_stored (ha : GoodName a) (hx : riscvGetPrefixClass a ≠ .x) (hb : StoredName b)
    (h : riscvCompareSubsets b a = .eq) : b = a := by
  rw [← compare_lowered] at h
  have hlower := ha.eq_of_compare hb.lowered (OrientedCmp.eq_symm h)
  have hclass : riscvGetPrefixClass b ≠ .x := by
    rw [← class_lowered, ← hlower]
    exact hx
  rw [hlower, lowered_of_ne_x hclass]

end Names

/-! ## Lists in lower case -/

/-- A list in which vendor extensions may have upper-case letters. -/
structure SubsetList.Stored (l : SubsetList) : Prop extends l.Wf where
  names : ∀ s ∈ l.nodes, StoredName s.name

def Subset.lowered (s : Subset) : Subset := { s with name := Isa.lowered s.name }

def SubsetList.lowered (l : SubsetList) : SubsetList :=
  { l with nodes := l.nodes.map Subset.lowered, tail := l.tail.map Isa.lowered }

def ParseState.lowered (st : ParseState) : ParseState := { st with list := st.list.lowered }

section Lists

variable {l : SubsetList} {nodes : List Subset} {n : Name}

theorem SubsetList.Parsed.stored (h : l.Parsed) : l.Stored := ⟨h.toWf, fun s hs => .inl (h.names s hs)⟩

theorem SubsetList.Stored.add (h : l.Stored) (hn : StoredName n) (major minor : Int) :
    (riscvAddSubset l n major minor).Stored := by
  refine ⟨riscvAddSubset_wf h.toWf n major minor, fun s hs => ?_⟩
  rcases mem_of_mem_add h.toWf hs with rfl | hs
  · exact hn
  · exact h.names s hs

theorem SubsetList.Stored.remove (h : l.Stored) (n : Name) : (riscvRemoveSubset l n).Stored :=
  ⟨riscvRemoveSubset_wf h.toWf n, fun s hs => h.names s ((mem_remove h.toWf n).mp hs).1⟩

theorem SubsetList.Wf.lowered (h : l.Wf) : l.lowered.Wf := by
  refine ⟨?_, ?_⟩
  · refine List.pairwise_map.mpr (h.ordered.imp fun {a b} hab => ?_)
    show riscvCompareSubsets (Isa.lowered a.name) (Isa.lowered b.name) = .lt
    rw [compare_lowered_lowered]
    exact hab
  · show l.tail.map Isa.lowered = (l.nodes.map Subset.lowered).getLast?.map (·.name)
    rw [h.tail, List.getLast?_map, Option.map_map, Option.map_map]
    rfl

theorem SubsetList.Stored.lowered (h : l.Stored) : l.lowered.Parsed := by
  refine ⟨h.toWf.lowered, fun s hs => ?_⟩
  obtain ⟨t, ht, rfl⟩ := List.mem_map.mp hs
  exact (h.names t ht).lowered

theorem entry_lowered (n : Name) (nodes : List Subset) :
    entry n (nodes.map Subset.lowered) = (entry n nodes).map Subset.lowered := by
  induction nodes with
  | nil => rfl
  | cons s nodes ih =>
    rw [List.map_cons, entry_cons, entry_cons, ih]
    show (if riscvCompareSubsets (Isa.lowered s.name) n = .eq then _ else _) = _
    rw [compare_lowered]
    split <;> rfl

theorem insertNew_lowered (x : Subset) (nodes : List Subset) :
    insertNew riscvCompareSubsets Subset.name x.lowered (nodes.map Subset.lowered) =
      (insertNew riscvCompareSubsets Subset.name x nodes).map Subset.lowered := by
  induction nodes with
  | nil => rfl
  | cons s nodes ih =>
    rw [List.map_cons, insertNew, insertNew]
    have hcompare : riscvCompareSubsets s.lowered.name x.lowered.name = riscvCompareSubsets s.name x.name :=
      compare_lowered_lowered s.name x.name
    rw [hcompare]
    cases riscvCompareSubsets s.name x.name with
    | lt =>
      dsimp only
      rw [ih, List.map_cons]
    | eq => rfl
    | gt => rfl

theorem find_lowered (h : l.Wf) (n : Name) : l.lowered.find n = (l.find n).map Subset.lowered := by
  rw [find_eq h.lowered, find_eq h]
  exact entry_lowered n l.nodes

/-- An addition is one to the list in lower case. -/
theorem add_lowered (h : l.Wf) (n : Name) (major minor : Int) :
    riscvAddSubset l.lowered (Isa.lowered n) major minor = (riscvAddSubset l n major minor).lowered := by
  have hnodes : (riscvAddSubset l.lowered (Isa.lowered n) major minor).nodes =
      (riscvAddSubset l n major minor).lowered.nodes := by
    rw [riscvAddSubset_nodes h.lowered]
    show _ = (riscvAddSubset l n major minor).nodes.map Subset.lowered
    rw [riscvAddSubset_nodes h]
    exact insertNew_lowered ⟨n, major, minor⟩ l.nodes
  have htail := (riscvAddSubset_wf h.lowered (Isa.lowered n) major minor).tail
  have htail' := (riscvAddSubset_wf h n major minor).lowered.tail
  rw [hnodes, ← htail'] at htail
  have harch : (riscvAddSubset l.lowered (Isa.lowered n) major minor).archStr =
      (riscvAddSubset l n major minor).lowered.archStr := by
    rw [riscvAddSubset_archStr]
    exact (riscvAddSubset_archStr l n major minor).symm
  revert hnodes htail harch
  generalize riscvAddSubset l.lowered (Isa.lowered n) major minor = l₁
  generalize (riscvAddSubset l n major minor).lowered = l₂
  rcases l₁ with ⟨nodes₁, tail₁, arch₁⟩
  rcases l₂ with ⟨nodes₂, tail₂, arch₂⟩
  rintro ⟨⟩ ⟨⟩ ⟨⟩
  rfl

end Lists

/-! ## What is implied -/

section Implied

variable {rps : Rps} {rows : List ImplicitSubset} {st : ParseState}

theorem fires_lowered (h : st.list.Wf) (r : ImplicitSubset) : r.fires st.lowered.list = r.fires st.list := by
  have hfind (n : Name) := find_lowered h n
  unfold ImplicitSubset.fires SubsetList.supports
  have hlist : st.lowered.list = st.list.lowered := rfl
  rw [hlist, hfind, hfind, Option.isSome_map]
  cases st.list.find r.subsetName with
  | none => rfl
  | some s =>
    have hcheck : r.check.holds s.lowered = r.check.holds s := by cases r.check <;> rfl
    rw [Option.map_some]
    dsimp only
    rw [hcheck]

/-- What the loop keeps: the list only grows, by implied extensions. -/
structure Extends (rps : Rps) (rows : List ImplicitSubset) (st st' : ParseState) : Prop where
  stored : st'.list.Stored
  kept : ∀ s ∈ st.list.nodes, s ∈ st'.list.nodes
  added : ∀ s ∈ st'.list.nodes, s ∈ st.list.nodes ∨ ∃ r ∈ rows, s = impliedEntry rps.isaSpec r.implicitName

theorem Extends.add {st₀ : ParseState} (h : Extends rps rows st₀ st) (hrows : GoodRows rows) {r : ImplicitSubset}
    (hr : r ∈ rows) : Extends rps rows st₀
      (riscvParseAddSubset rps st r.implicitName riscvUnknownVersion riscvUnknownVersion true) := by
  rw [riscvParseAddSubset_implicit]
  refine ⟨h.stored.add (.inl (hrows r hr).2.parsed) _ _, fun s hs => mem_add_of_mem h.stored.toWf _ _ _ (h.kept s hs),
    fun s hs => ?_⟩
  rcases mem_of_mem_add h.stored.toWf hs with rfl | hs
  · exact .inr ⟨r, hr, rfl⟩
  · exact h.added s hs

/-- The loop goes as it does with the list in lower case. -/
theorem implicitLoop_lowered {st₀ : ParseState} (hrows : GoodRows rows) (fuel : Nat) (h : Extends rps rows st₀ st) :
    implicitLoop rps rows fuel st.lowered = (implicitLoop rps rows fuel st).map ParseState.lowered ∧
      ∀ st' ∈ implicitLoop rps rows fuel st, Extends rps rows st₀ st' := by
  induction fuel generalizing st with
  | zero => exact ⟨rfl, fun _ h => by cases h⟩
  | succ fuel ih =>
    have hfind : rows.find? (·.fires st.lowered.list) = rows.find? (·.fires st.list) := by
      congr 1
      funext r
      exact fires_lowered h.stored.toWf r
    rw [implicitLoop, implicitLoop, hfind]
    cases hrow : rows.find? (·.fires st.list) with
    | none => exact ⟨rfl, by rintro st' ⟨⟩; exact h⟩
    | some r =>
      have hr := List.mem_of_find?_eq_some hrow
      have hstep : riscvParseAddSubset rps st.lowered r.implicitName riscvUnknownVersion riscvUnknownVersion true =
          (riscvParseAddSubset rps st r.implicitName riscvUnknownVersion riscvUnknownVersion true).lowered := by
        rw [riscvParseAddSubset_implicit, riscvParseAddSubset_implicit]
        have hadd := add_lowered h.stored.toWf r.implicitName (impliedEntry rps.isaSpec r.implicitName).major
          (impliedEntry rps.isaSpec r.implicitName).minor
        rw [(hrows r hr).2.parsed.lowered_eq] at hadd
        show ({ st.lowered with list := riscvAddSubset st.list.lowered _ _ _ } : ParseState) = _
        rw [hadd]
        rfl
      dsimp only
      rw [hstep]
      exact ih (h.add hrows hr)

/-- What is implied is what the list in lower case implies. -/
theorem addImplicitSubsets_lowered (hrows : GoodRows rows) (hl : st.list.Stored) :
    addImplicitSubsets rps rows st.lowered = (addImplicitSubsets rps rows st).lowered ∧
      Extends rps rows st (addImplicitSubsets rps rows st) := by
  have hrefl : Extends rps rows st st := ⟨hl, fun _ hs => hs, fun _ hs => .inl hs⟩
  obtain ⟨hloop, hkept⟩ := implicitLoop_lowered hrows (rows.length + 1) hrefl
  obtain ⟨hends, -, -⟩ := @addImplicitSubsets_spec rps rows st.lowered hrows hl.lowered
  rw [hends] at hloop
  obtain ⟨st', hst', hlowered⟩ := Option.map_eq_some_iff.mp hloop.symm
  have heq : addImplicitSubsets rps rows st = st' := by rw [addImplicitSubsets, hst', Option.getD_some]
  rw [heq]
  exact ⟨hlowered.symm, hkept st' hst'⟩

end Implied

end RiscvBinutils.Isa
