/-
Updates of the subset list by `.option arch` (bfd/elfxx-riscv.c, `riscv_update_subset`): what a list of `+ext` and
`-ext` leaves.  What comes with g and with nothing else that is written cannot be removed: g stays in the list.
A vendor extension is found in any case, but removed only in its own.
-/
import RiscvBinutils.Isa.Invariant
import RiscvBinutils.Isa.Lowered
import RiscvBinutils.Isa.Render
import Mathlib.Data.Set.Insert
import Mathlib.Logic.Relation

namespace RiscvBinutils.Isa

open Std Relation RiscvBinutils.Base

/-! ## The items -/

/-- An item of the operand of `.option arch`. -/
inductive Item
  | add (name : Name) (major minor : Int)
  | remove (name : Name)
  deriving DecidableEq, Repr

def Item.name : Item → Name
  | .add n _ _ => n
  | .remove n => n

/-- The item at the start of a string, and the rest; `none` if it has no sign or is refused. -/
def readItem (check : Bool) (str : List Char) : List Char → Option (Item × List Char)
  | '+' :: q => (nextUpdate check str q).toOption.map fun r => (.add r.1.name r.1.major r.1.minor, r.2)
  | '-' :: q => (nextUpdate check str q).toOption.map fun r => (.remove r.1.name, r.2)
  | _ => none

/-- The items in the order in which `riscv_update_subset` reads them. -/
def updateItems (check : Bool) (str : List Char) : (fuel : Nat) → List Char → Option (List Item)
  | 0, _ => none
  | fuel + 1, p =>
    match readItem check str p with
    | none => none
    | some (item, ',' :: rest) => (updateItems check str fuel rest).map (item :: ·)
    | some (item, _) => some [item]

/-- What `riscv_update_subset` does with an item. -/
def Item.run (rps : Rps) (st : ParseState) : Item → ParseState
  | .add n major minor => riscvParseAddSubset rps st n major minor true
  | .remove n => { st with list := riscvRemoveSubset st.list n }

section Items

variable {rps : Rps} {str : List Char} {fuel : Nat}

theorem readItem_eq_some {check : Bool} {p rest : List Char} {item : Item}
    (h : readItem check str p = some (item, rest)) :
    ∃ q t, nextUpdate check str q = .ok (t, rest) ∧
      ((p = '+' :: q ∧ item = .add t.name t.major t.minor) ∨ (p = '-' :: q ∧ item = .remove t.name)) := by
  unfold readItem at h
  split at h
  · rename_i q
    cases hnext : nextUpdate check str q with
    | error e =>
      rw [hnext] at h
      cases h
    | ok r =>
      rw [hnext] at h
      cases h
      exact ⟨q, r.1, hnext, .inl ⟨rfl, rfl⟩⟩
  · rename_i q
    cases hnext : nextUpdate check str q with
    | error e =>
      rw [hnext] at h
      cases h
    | ok r =>
      rw [hnext] at h
      cases h
      exact ⟨q, r.1, hnext, .inr ⟨rfl, rfl⟩⟩
  · cases h

theorem updateLoop_step {p rest : List Char} {item : Item} (st : ParseState) :
    readItem rps.checkUnknownPrefixedExt str p = some (item, rest) →
      updateLoop rps str (fuel + 1) p st =
        match rest with
        | ',' :: rest => updateLoop rps str fuel rest (item.run rps st)
        | _ => riscvParseCheckConflicts (riscvParseAddImplicitSubsets rps (item.run rps st)) := by
  intro h
  obtain ⟨q, t, hnext, ⟨rfl, rfl⟩ | ⟨rfl, rfl⟩⟩ := readItem_eq_some h
  · rw [updateLoop]
    dsimp only
    rw [hnext]
    rfl
  · rw [updateLoop]
    dsimp only
    rw [hnext]
    rfl

/-- The loop does the items, and then what follows every change of the list. -/
theorem updateLoop_of_items {p : List Char} {items : List Item}
    (h : updateItems rps.checkUnknownPrefixedExt str fuel p = some items) (st : ParseState) :
    updateLoop rps str fuel p st =
      riscvParseCheckConflicts (riscvParseAddImplicitSubsets rps (items.foldl (Item.run rps) st)) := by
  induction fuel generalizing p items st with
  | zero => cases h
  | succ fuel ih =>
    rw [updateItems] at h
    split at h
    · cases h
    · rename_i item rest hread
      obtain ⟨items, hitems, rfl⟩ := Option.map_eq_some_iff.mp h
      rw [updateLoop_step st hread, List.foldl_cons]
      exact ih hitems _
    · rename_i item rest hcomma hread
      cases h
      rw [updateLoop_step st hread]
      split
      · exact absurd rfl (hcomma _)
      · rfl

theorem supported_lower : ∀ c : PrefixClass, c ≠ .x → ∀ e ∈ c.supported, ∀ d ∈ e.name, isUpper d = false := by
  intro c hc
  cases c with
  | x => exact absurd rfl hc
  | z => decide +kernel
  | s => decide +kernel
  | zxm => decide +kernel
  | single => decide +kernel

/-- The names that get through are told apart from all others, but for vendor extensions. -/
theorem LetThrough.good {p rest : List Char} {t : Token} (h : LetThrough true p t rest) :
    GoodName t.name ∨ riscvGetPrefixClass t.name = .x := by
  by_cases hx : riscvGetPrefixClass t.name = .x
  · exact .inr hx
  · refine .inl ?_
    have hempty := h.nonempty
    by_cases hone : t.name.length = 1
    · refine ⟨.inl ⟨hone, h.letter hone⟩, fun hz => ?_⟩
      have hsingle := class_eq_single_of_headOrder (h.letter hone)
      rw [hz] at hsingle
      cases hsingle
    · have hknown := h.known (by omega) rfl
      refine ⟨.inr ⟨class_ne_single_of_recognized hknown, ?_⟩, second_of_recognized hknown⟩
      have hmem : ∃ e ∈ (riscvGetPrefixClass t.name).supported, e.name = t.name := by
        have hsingle := class_ne_single_of_recognized hknown
        unfold riscvRecognizedPrefixedExt at hknown
        cases hclass : riscvGetPrefixClass t.name with
        | single => exact absurd hclass hsingle
        | x => exact absurd hclass hx
        | z | s | zxm =>
          rw [hclass] at hknown
          simpa using hknown
      obtain ⟨e, he, hname⟩ := hmem
      rw [← hname]
      exact supported_lower _ hx e he

/-- The items of a string. -/
theorem updateItems_good {p : List Char} {items : List Item} (h : updateItems true str fuel p = some items) :
    ∀ i ∈ items, (GoodName i.name ∨ riscvGetPrefixClass i.name = .x) ∧
      i.name ≠ ['i'] ∧ i.name ≠ ['e'] ∧ i.name ≠ ['g'] := by
  induction fuel generalizing p items with
  | zero => cases h
  | succ fuel ih =>
    -- an item that is read
    have hone {item : Item} {rest : List Char} (hread : readItem true str p = some (item, rest)) :
        (GoodName item.name ∨ riscvGetPrefixClass item.name = .x) ∧
          item.name ≠ ['i'] ∧ item.name ≠ ['e'] ∧ item.name ≠ ['g'] := by
      obtain ⟨q, t, hnext, hitem⟩ := readItem_eq_some hread
      have hlet := nextUpdate_letThrough hnext
      have hname : item.name = t.name := by
        rcases hitem with ⟨-, rfl⟩ | ⟨-, rfl⟩ <;> rfl
      rw [hname]
      exact ⟨hlet.good, hlet.base⟩
    rw [updateItems] at h
    split at h
    · cases h
    · rename_i item rest hread
      obtain ⟨items, hitems, rfl⟩ := Option.map_eq_some_iff.mp h
      intro i hi
      rcases List.mem_cons.mp hi with rfl | hi
      · exact hone hread
      · exact ih hitems i hi
    · rename_i item rest hcomma hread
      cases h
      intro i hi
      rw [List.mem_singleton.mp hi]
      exact hone hread

end Items

/-! ## What an update means -/

section Meaning

variable (nodes : List Subset)

/-- The names in a list. -/
def nodeNames : Set Name := {n | ∃ s ∈ nodes, s.name = n}

/-- A row of the table demands one extension because of another one in the list. -/
def Demands (a b : Name) : Prop :=
  ∃ r ∈ riscvImplicitSubsets, r.subsetName = a ∧ r.implicitName = b ∧
    ∃ s ∈ nodes, s.name = a ∧ r.check.holds s = true

/-- The names after an item. -/
def Item.apply (names : Set Name) : Item → Set Name
  | .add n _ _ => insert n names
  | .remove n => names \ {n}

/-- Removed, and not added by a later item. -/
def Dropped (items : List Item) (x : Name) : Prop :=
  ∃ pre post, items = pre ++ .remove x :: post ∧ ∀ major minor, .add x major minor ∉ post

/-- The new names are those of the old list with the items applied, and what they imply. -/
def AppliedClosure (items : List Item) (old new : List Subset) : Prop :=
  ∀ n, n ∈ nodeNames new ↔ ∃ m ∈ items.foldl Item.apply (nodeNames old), ReflTransGen (Demands new) m n

/-- The new list is the old one with the items applied and what they imply; the others keep their versions; and
what is removed is there only if something that is written implies it. -/
structure Updated (items : List Item) (old new : List Subset) : Prop where
  closure : AppliedClosure items old new
  untouched : ∀ s ∈ old, (∀ i ∈ items, i.name ≠ s.name) → ∀ t, (t ∈ new ∧ t.name = s.name) ↔ t = s
  dropped : ∀ x, Dropped items x → x ∈ nodeNames new →
    ∃ y ∈ shownNodes new, y.name ≠ x ∧ TransGen (Demands new) y.name x

/-! ### When it means that -/

/-- The names that a list keeps of an item: a name is not added next to one that differs from it only in case. -/
def Item.keep (names : Set Name) : Item → Set Name
  | .add n _ _ => {m | m ∈ names ∨ (m = n ∧ ∀ k ∈ names, riscvCompareSubsets k n = .eq → k = n)}
  | .remove n => names \ {n}

/-- No addition is lost, unless a later item adds or removes the name anyway. -/
def NothingLost (items : List Item) (old : List Subset) : Prop :=
  ∀ n ∈ items.foldl Item.apply (nodeNames old), n ∈ items.foldl Item.keep (nodeNames old)

/-- What implies zve32x, and that itself. -/
def impliesZve32x : List Name :=
  ["zve32x".toList, "zve32f".toList, "zve64x".toList, "zve64f".toList, "zve64d".toList, ['v'], "zvfhmin".toList,
    "zvfh".toList, "xsfvcp".toList]

/-- The only vendor extension with a row is not there in another case, or what it implies is there without it. -/
def VendorRowPlain (items : List Item) (old : List Subset) : Prop :=
  (∃ n ∈ items.foldl Item.apply (nodeNames old),
    n ≠ "xsfvcp".toList ∧ riscvCompareSubsets n "xsfvcp".toList = .eq) →
  ∃ m ∈ impliesZve32x, m ∈ items.foldl Item.apply (nodeNames old)

/-- What g alone brings into a list: everything else that g implies comes also with d. -/
def comesWithG : List Name := [['m'], ['a'], ['d'], "zifencei".toList]

/-- What implies d and is written. -/
def impliesD : List Name := [['q'], ['v'], "zve64d".toList, "zcd".toList]

/-- Removing an extension does what it says: there is no g, or it is not g that brings it back, or something else
brings it back too. -/
def Removable (items : List Item) (old : List Subset) (x : Name) : Prop :=
  ['g'] ∉ nodeNames old ∨ x ∉ comesWithG ∨
    (x = ['d'] ∧ ∃ n ∈ impliesD, n ∈ items.foldl Item.apply (nodeNames old)) ∨
    (x = "zifencei".toList ∧ ∃ s ∈ old, s.name = ['i'] ∧ ImplicitCheck.forI.holds s = true)

end Meaning

/-! ## Entries with a version -/

section Dated

/-- `riscv_rps_as`: prefixed extensions are checked, and a specification is chosen before anything is parsed. -/
structure Rps.Assembler (rps : Rps) : Prop where
  isaSpec : ∃ c ∈ [IsaSpecClass.c2p2, .c20190608, .c20191213], rps.isaSpec = some c
  check : rps.checkUnknownPrefixedExt = true

/-- g has no version, and of the others only those from which no row starts. -/
structure Dated (s : Subset) : Prop where
  unknown : s.name = ['g'] → s.unknown = true
  known : s.name ≠ ['g'] → ∀ r ∈ riscvImplicitSubsets, r.subsetName = s.name → s.unknown = false

variable {rps : Rps} {n : Name}

/-- A version of the draft is a default for every specification. -/
theorem default_of_draft {c : IsaSpecClass} (hc : c ≠ .none) {e : SupportedExt}
    (he : e ∈ (riscvGetPrefixClass n).supported) (hdraft : e.isaSpecClass = .draft) (hname : e.name = n) :
    (riscvGetDefaultExtVersion (some c) n).isSome = true := by
  unfold riscvGetDefaultExtVersion
  split
  · rename_i hnone
    cases hnone
  · rename_i hnone
    exact absurd (Option.some.inj hnone) hc
  · rw [Option.isSome_map, List.find?_isSome]
    exact ⟨e, he, decide_eq_true ⟨hname, .inl hdraft⟩⟩

/-- The extension from which a row starts is g, or has a version in the draft or in every specification. -/
def sourceDated : ImplicitSubset → Bool
  | ⟨n, _, _⟩ =>
    n = ['g'] || ((riscvGetPrefixClass n).supported.any fun e => e.isaSpecClass = .draft && e.name = n) ||
      [IsaSpecClass.c2p2, .c20190608, .c20191213].all fun c => (riscvGetDefaultExtVersion (some c) n).isSome

/-- Every extension from which a row starts has a default version, but g. -/
theorem default_source : ∀ c ∈ [IsaSpecClass.c2p2, .c20190608, .c20191213], ∀ r ∈ riscvImplicitSubsets,
    r.subsetName ≠ ['g'] → (riscvGetDefaultExtVersion (some c) r.subsetName).isSome = true := by
  have hall : riscvImplicitSubsets.all sourceDated = true := by decide +kernel
  intro c hc r hr hg
  have hrow := List.all_eq_true.mp hall r hr
  unfold sourceDated at hrow
  dsimp only at hrow
  rw [decide_eq_false hg, Bool.false_or, Bool.or_eq_true, List.any_eq_true, List.all_eq_true] at hrow
  rcases hrow with ⟨e, he, hdraft⟩ | hevery
  · rw [Bool.and_eq_true, decide_eq_true_eq, decide_eq_true_eq] at hdraft
    refine default_of_draft ?_ he hdraft.1 hdraft.2
    rintro rfl
    exact absurd hc (by decide)
  · exact hevery c hc

theorem unknown_eq_false {s : Subset} (hmajor : s.major ≠ riscvUnknownVersion)
    (hminor : s.minor ≠ riscvUnknownVersion) :
    s.unknown = false := by
  rw [Subset.unknown, decide_eq_false_iff_not]
  exact not_or_intro hmajor hminor

theorem dated_resolve (hrps : rps.Assembler) (hg : n ≠ ['g']) (major minor : Int) :
    Dated ⟨n, (resolveVersion rps.isaSpec n major minor).1, (resolveVersion rps.isaSpec n major minor).2⟩ := by
  refine ⟨fun h => absurd h hg, fun _ r hr hname => ?_⟩
  obtain ⟨c, hreal, hc⟩ := hrps.isaSpec
  have hname : r.subsetName = n := hname
  have hdefault := default_source c hreal r hr (hname ▸ hg)
  rw [hname, ← hc] at hdefault
  obtain ⟨v, hv⟩ := Option.isSome_iff_exists.mp hdefault
  unfold resolveVersion
  split
  · rw [hv]
    exact unknown_eq_false (default_known hv).1 (default_known hv).2
  · rename_i hversion
    rw [not_or] at hversion
    exact unknown_eq_false hversion.1 hversion.2

theorem dated_implied (hrps : rps.Assembler) (n : Name) : Dated (impliedEntry rps.isaSpec n) := by
  by_cases hg : n = ['g']
  · rw [hg, impliedEntry, resolveVersion, if_pos (.inl rfl), default_g]
    exact ⟨fun _ => by decide, fun h => absurd rfl h⟩
  · exact dated_resolve hrps hg _ _

theorem dated_token (hrps : rps.Assembler) {t : Token} {s : Subset} (h : tokenEntry rps t = some s) : Dated s := by
  unfold tokenEntry at h
  split at h
  · cases h
    exact dated_implied hrps _
  · rename_i hg
    dsimp only at h
    split at h
    · cases h
    · cases h
      exact dated_resolve hrps hg _ _

theorem dated_closure (hrps : rps.Assembler) {nodes nodes' : List Subset} (hdated : ∀ s ∈ nodes, Dated s)
    (h : IsClosure rps.isaSpec riscvImplicitSubsets nodes nodes') : ∀ s ∈ nodes', Dated s := by
  intro s hs
  obtain ⟨-, hrecorded⟩ := (h s).mp hs
  rw [hrecorded, recorded]
  cases hentry : entry s.name nodes with
  | none => exact dated_implied hrps _
  | some t => exact hdated t (entry_mem hentry)

/-- In the list of an accepted string everything is dated. -/
theorem Accepted.dated (hrps : rps.Assembler) {ts : List Token} {st st' : ParseState} (h : Accepted rps ts st st')
    (hempty : st.list = {}) : ∀ s ∈ st'.list.nodes, Dated s := by
  obtain ⟨nodes, hord, -, hentry, hclosure⟩ := h.closure
  refine dated_closure hrps (fun s hs => ?_) hclosure
  have hs := entry_of_mem hord hs
  rw [hentry, hempty] at hs
  obtain ⟨t, -, ht⟩ := List.mem_filterMap.mp (entry_mem hs)
  exact dated_token hrps ht

end Dated

/-! ## The list after the items -/

section Applied

variable {rps : Rps} {st : ParseState}

theorem riscvParseAddSubset_always (st : ParseState) (n : Name) (major minor : Int) :
    riscvParseAddSubset rps st n major minor true =
      { st with
        list :=
          riscvAddSubset st.list n (resolveVersion rps.isaSpec n major minor).1
            (resolveVersion rps.isaSpec n major minor).2 } := by
  rw [riscvParseAddSubset, if_neg (by simp)]

theorem nodeNames_add {l : SubsetList} (hl : l.Wf) (n : Name) (major minor : Int) :
    nodeNames (riscvAddSubset l n major minor).nodes = Item.keep (nodeNames l.nodes) (.add n major minor) := by
  have hnodes := riscvAddSubset_nodes hl n major minor
  ext m
  cases hentry : entry n l.nodes with
  | some s =>
    rw [hnodes, insertNew_of_find hl.ordered (x := ⟨n, major, minor⟩) hentry]
    refine ⟨.inl, ?_⟩
    rintro (hm | ⟨rfl, hall⟩)
    · exact hm
    · exact ⟨s, entry_mem hentry, hall _ ⟨s, entry_mem hentry, rfl⟩ (entry_compare hentry)⟩
  | none =>
    constructor
    · rintro ⟨s, hs, rfl⟩
      rcases mem_of_mem_add hl hs with rfl | hs
      · refine .inr ⟨rfl, ?_⟩
        rintro k ⟨t, ht, rfl⟩ heq
        exact absurd heq (findKey_eq_none_iff.mp hentry t ht)
      · exact .inl ⟨s, hs, rfl⟩
    · rintro (⟨s, hs, rfl⟩ | ⟨rfl, -⟩)
      · exact ⟨s, mem_add_of_mem hl _ _ _ hs, rfl⟩
      · exact ⟨_, mem_add_self hl _ _ hentry, rfl⟩

theorem nodeNames_remove {l : SubsetList} (hl : l.Wf) (n : Name) :
    nodeNames (riscvRemoveSubset l n).nodes = nodeNames l.nodes \ {n} := by
  ext m
  constructor
  · rintro ⟨s, hs, rfl⟩
    obtain ⟨hs, hne⟩ := (mem_remove hl n).mp hs
    exact ⟨⟨s, hs, rfl⟩, hne⟩
  · rintro ⟨⟨s, hs, rfl⟩, hne⟩
    exact ⟨s, (mem_remove hl n).mpr ⟨hs, hne⟩, rfl⟩

/-- The list after some items: the names are what the list keeps of the items, nodes that no item names are kept, and
everything is dated. -/
structure Applied (items : List Item) (st st' : ParseState) : Prop where
  stored : st'.list.Stored
  names : nodeNames st'.list.nodes = items.foldl Item.keep (nodeNames st.list.nodes)
  kept : ∀ s ∈ st.list.nodes, (∀ i ∈ items, i.name ≠ s.name) → s ∈ st'.list.nodes
  dated : ∀ s ∈ st'.list.nodes, Dated s

theorem Item.run_applied (hrps : rps.Assembler) (hl : st.list.Stored) (hdated : ∀ s ∈ st.list.nodes, Dated s)
    {i : Item} (hname : StoredName i.name) (hg : i.name ≠ ['g']) : Applied [i] st (i.run rps st) := by
  cases i with
  | add n major minor =>
    rw [Item.run, riscvParseAddSubset_always]
    refine ⟨hl.add hname _ _, nodeNames_add hl.toWf n _ _, fun s hs _ => mem_add_of_mem hl.toWf _ _ _ hs, ?_⟩
    intro s hs
    rcases mem_of_mem_add hl.toWf hs with rfl | hs
    · exact dated_resolve hrps hg _ _
    · exact hdated s hs
  | remove n =>
    refine ⟨hl.remove n, nodeNames_remove hl.toWf n, ?_, fun s hs => hdated s ((mem_remove hl.toWf n).mp hs).1⟩
    intro s hs hne
    exact (mem_remove hl.toWf n).mpr ⟨hs, fun h => hne _ (List.mem_singleton_self _) h.symm⟩

theorem foldl_run (hrps : rps.Assembler) (hl : st.list.Stored) (hdated : ∀ s ∈ st.list.nodes, Dated s)
    {items : List Item} (hgood : ∀ i ∈ items, StoredName i.name ∧ i.name ≠ ['g']) :
    Applied items st (items.foldl (Item.run rps) st) := by
  induction items generalizing st with
  | nil => exact ⟨hl, rfl, fun s hs _ => hs, hdated⟩
  | cons i items ih =>
    obtain ⟨hname, hg⟩ := hgood i List.mem_cons_self
    have hone : Applied [i] st (i.run rps st) := Item.run_applied hrps hl hdated hname hg
    have hrest := ih hone.stored hone.dated fun j hj => hgood j (List.mem_cons_of_mem i hj)
    refine ⟨hrest.stored, ?_, ?_, hrest.dated⟩
    · rw [List.foldl_cons, hrest.names, hone.names]
      rfl
    · intro s hs hne
      refine hrest.kept s (hone.kept s hs ?_) fun j hj => hne j (List.mem_cons_of_mem i hj)
      intro j hj
      rw [List.mem_singleton.mp hj]
      exact hne i List.mem_cons_self

theorem Item.keep_subset {names names' : Set Name} (h : names ⊆ names') (i : Item) : i.keep names ⊆ i.apply names' := by
  cases i with
  | add n major minor =>
    rintro m (hm | ⟨rfl, -⟩)
    · exact .inr (h hm)
    · exact .inl rfl
  | remove n => exact fun m hm => ⟨h hm.1, hm.2⟩

/-- The list keeps no more than the items say, and what it does not keep are vendor extensions. -/
theorem foldl_keep {items : List Item} {names names' : Set Name} (hsub : names ⊆ names')
    (hlost : ∀ n ∈ names', n ∉ names → riscvGetPrefixClass n = .x) (hnames : ∀ k ∈ names, StoredName k)
    (hgood : ∀ i ∈ items, GoodName i.name ∨ riscvGetPrefixClass i.name = .x) :
    items.foldl Item.keep names ⊆ items.foldl Item.apply names' ∧
      ∀ n ∈ items.foldl Item.apply names', n ∉ items.foldl Item.keep names → riscvGetPrefixClass n = .x := by
  induction items generalizing names names' with
  | nil => exact ⟨hsub, hlost⟩
  | cons i items ih =>
    have hi := hgood i List.mem_cons_self
    refine ih (Item.keep_subset hsub i) ?_ ?_ fun j hj => hgood j (List.mem_cons_of_mem i hj)
    · cases i with
      | add m major minor =>
        intro n hn hnot
        by_contra hx
        have hn' : n ∉ names := fun h => hnot (.inl h)
        rcases hn with rfl | hn
        · -- a good name is lost on no other name
          refine hnot (.inr ⟨rfl, fun k hk heq => ?_⟩)
          exact (hi.resolve_right hx).eq_of_stored hx (hnames k hk) heq
        · exact hx (hlost n hn hn')
      | remove m => exact fun n hn hnot => hlost n hn.1 fun h => hnot ⟨h, hn.2⟩
    · cases i with
      | add m major minor =>
        rintro k (hk | ⟨rfl, -⟩)
        · exact hnames k hk
        · exact hi.imp (·.parsed) id
      | remove m => exact fun k hk => hnames k hk.1

theorem mem_apply_of_ne {names : Set Name} {i : Item} {n : Name} (h : i.name ≠ n) :
    n ∈ i.apply names ↔ n ∈ names := by
  cases i with
  | add m major minor => exact or_iff_right fun heq : n = m => h heq.symm
  | remove m => exact and_iff_left fun heq : n = m => h heq.symm

theorem mem_foldl_apply_of_ne {items : List Item} {names : Set Name} {n : Name} (h : ∀ i ∈ items, i.name ≠ n) :
    n ∈ items.foldl Item.apply names ↔ n ∈ names := by
  induction items generalizing names with
  | nil => exact Iff.rfl
  | cons i items ih =>
    rw [List.foldl_cons, ih fun j hj => h j (List.mem_cons_of_mem i hj), mem_apply_of_ne (h i List.mem_cons_self)]

/-- What is removed and not added again is not among the names after the items. -/
theorem Dropped.not_mem {items : List Item} {x : Name} (h : Dropped items x) (names : Set Name) :
    x ∉ items.foldl Item.apply names := by
  obtain ⟨pre, post, rfl, hpost⟩ := h
  rw [List.foldl_append, List.foldl_cons]
  have hgone : x ∉ Item.apply (pre.foldl Item.apply names) (.remove x) := fun hx => hx.2 rfl
  revert hgone
  generalize Item.apply (pre.foldl Item.apply names) (.remove x) = names'
  intro hgone
  induction post generalizing names' with
  | nil => exact hgone
  | cons i post ih =>
    refine ih (fun major minor h => hpost major minor (List.mem_cons_of_mem i h)) _ ?_
    cases i with
    | add n major minor =>
      rintro (rfl | hx)
      · exact hpost major minor List.mem_cons_self
      · exact hgone hx
    | remove n => exact fun hx => hgone hx.1

theorem Dropped.exists_item {items : List Item} {x : Name} (h : Dropped items x) : ∃ i ∈ items, i.name = x := by
  obtain ⟨pre, post, rfl, -⟩ := h
  exact ⟨.remove x, List.mem_append_right _ List.mem_cons_self, rfl⟩

end Applied

/-! ## What is demanded -/

section Demanded

variable {rps : Rps} {nodes nodes' : List Subset} {a b m n x : Name}

theorem LeastClosure.demands_mem (h : LeastClosure riscvImplicitSubsets nodes nodes') (hab : Demands nodes' a b) :
    b ∈ nodeNames nodes' := by
  obtain ⟨r, hr, rfl, rfl, s, hs, hname, hcheck⟩ := hab
  exact h.closed r hr s hs hname hcheck

/-- The new names are those to which a chain of rows leads from the old ones. -/
theorem LeastClosure.mem_names_iff (h : LeastClosure riscvImplicitSubsets nodes nodes') (n : Name) :
    n ∈ nodeNames nodes' ↔ ∃ m ∈ nodeNames nodes, ReflTransGen (Demands nodes') m n := by
  constructor
  · rintro ⟨s, hs, rfl⟩
    refine h.least {n | ∃ m ∈ nodeNames nodes, ReflTransGen (Demands nodes') m n} ?_ ?_ s hs
    · intro t ht
      exact ⟨t.name, ⟨t, ht, rfl⟩, .refl⟩
    · rintro r hr ⟨m, hm, hchain⟩ hfires
      exact ⟨m, hm, hchain.tail ⟨r, hr, rfl, rfl, hfires⟩⟩
  · rintro ⟨m, ⟨s, hs, rfl⟩, hchain⟩
    cases hchain with
    | refl => exact ⟨s, h.kept s hs, rfl⟩
    | tail _ hlast => exact h.demands_mem hlast

theorem Demands.source_mem (h : Demands nodes a b) : a ∈ nodeNames nodes := by
  obtain ⟨_, -, -, -, s, hs, hname, -⟩ := h
  exact ⟨s, hs, hname⟩

/-- A row without a condition. -/
theorem demands_of_row (hrow : ⟨a, b, .always⟩ ∈ riscvImplicitSubsets) (ha : a ∈ nodeNames nodes) :
    Demands nodes a b := by
  obtain ⟨s, hs, hname⟩ := ha
  exact ⟨_, hrow, rfl, rfl, s, hs, hname, rfl⟩

/-! ### Rows of the table -/

/-- What the proofs below look up in the table, all at once. -/
theorem implicit_rows :
    (∀ r ∈ riscvImplicitSubsets, r.implicitName ≠ ['g'] ∧
      (r.subsetName = ['g'] → r.implicitName = ['i'] ∨ r.implicitName = ['f'] ∨ r.implicitName = "zicsr".toList ∨
        r.implicitName ∈ comesWithG) ∧
      (r.implicitName ∈ comesWithG → r.subsetName = ['g'] ∨ (r.implicitName = ['d'] ∧ r.subsetName ∈ impliesD) ∨
        (r.implicitName = "zifencei".toList ∧ r.subsetName = ['i'] ∧ r.check = .forI)) ∧
      (r.implicitName ∈ impliesD → r.subsetName ∈ impliesD) ∧
      (r.implicitName ∈ impliesZve32x → r.subsetName ∈ impliesZve32x) ∧
      (riscvGetPrefixClass r.subsetName = .x → r = implies "xsfvcp" "zve32x") ∧
      riscvGetPrefixClass r.implicitName ≠ .x) ∧
      (∀ x ∈ comesWithG, ⟨['g'], x, .always⟩ ∈ riscvImplicitSubsets) ∧
      ∀ a ∈ impliesD, ⟨a, ['d'], .always⟩ ∈ riscvImplicitSubsets ∧ a ≠ ['g'] ∧ a ≠ ['d'] := by
  have hfromG : ∀ r ∈ riscvImplicitSubsets, r.implicitName ≠ ['g'] ∧
      (r.subsetName = ['g'] → r.implicitName = ['i'] ∨ r.implicitName = ['f'] ∨ r.implicitName = "zicsr".toList ∨
        r.implicitName ∈ comesWithG) ∧
      (r.implicitName ∈ comesWithG → r.subsetName = ['g'] ∨ (r.implicitName = ['d'] ∧ r.subsetName ∈ impliesD) ∨
        (r.implicitName = "zifencei".toList ∧ r.subsetName = ['i'] ∧ r.check = .forI)) := by decide +kernel
  obtain ⟨hchain, hcomes, hd⟩ :
      (∀ r ∈ riscvImplicitSubsets, (r.implicitName ∈ impliesD → r.subsetName ∈ impliesD) ∧
        (r.implicitName ∈ impliesZve32x → r.subsetName ∈ impliesZve32x) ∧
        (riscvGetPrefixClass r.subsetName = .x → r = implies "xsfvcp" "zve32x") ∧
        riscvGetPrefixClass r.implicitName ≠ .x) ∧
      (∀ x ∈ comesWithG, ⟨['g'], x, .always⟩ ∈ riscvImplicitSubsets) ∧
      ∀ a ∈ impliesD, ⟨a, ['d'], .always⟩ ∈ riscvImplicitSubsets ∧ a ≠ ['g'] ∧ a ≠ ['d'] := by decide +kernel
  refine ⟨fun r hr => ?_, hcomes, hd⟩
  obtain ⟨hnot, hfrom, hcome⟩ := hfromG r hr
  exact ⟨hnot, hfrom, hcome, hchain r hr⟩

/-- The rows that keep what the base and g bring. -/
theorem implicit_rows_mem : implies "e" "i" ∈ riscvImplicitSubsets ∧ implies "xsfvcp" "zve32x" ∈ riscvImplicitSubsets ∧
    implies "g" "d" ∈ riscvImplicitSubsets ∧ implies "d" "f" ∈ riscvImplicitSubsets ∧
    implies "g" "f" ∈ riscvImplicitSubsets ∧ implies "f" "zicsr" ∈ riscvImplicitSubsets ∧
    { implies "i" "zifencei" with check := .forI } ∈ riscvImplicitSubsets := by
  decide +kernel

/-- No row leads to g. -/
theorem not_demands_g : ¬Demands nodes a ['g'] := by
  rintro ⟨r, hr, -, hname, -⟩
  exact (implicit_rows.1 r hr).1 hname

theorem eq_g_of_chain (h : ReflTransGen (Demands nodes) a ['g']) : a = ['g'] := by
  cases h with
  | refl => rfl
  | tail _ hlast => exact absurd hlast not_demands_g

/-- What g implies. -/
theorem Demands.of_g (h : Demands nodes ['g'] b) :
    b = ['i'] ∨ b = ['f'] ∨ b = "zicsr".toList ∨ b ∈ comesWithG := by
  obtain ⟨r, hr, hg, rfl, -⟩ := h
  exact (implicit_rows.1 r hr).2.1 hg

/-- What implies something that comes with g. -/
theorem Demands.comesWithG (h : Demands nodes a b) (hb : b ∈ comesWithG) :
    a = ['g'] ∨ (b = ['d'] ∧ a ∈ impliesD) ∨
      (b = "zifencei".toList ∧ a = ['i'] ∧ ∃ s ∈ nodes, s.name = ['i'] ∧ ImplicitCheck.forI.holds s = true) := by
  obtain ⟨r, hr, rfl, rfl, s, hs, hname, hcheck⟩ := h
  rcases (implicit_rows.1 r hr).2.2.1 hb with hg | hd | ⟨hz, hi, hfor⟩
  · exact .inl hg
  · exact .inr (.inl hd)
  · rw [hfor] at hcheck
    exact .inr (.inr ⟨hz, hi, s, hs, hname.trans hi, hcheck⟩)

theorem row_comesWithG : ∀ x ∈ comesWithG, ⟨['g'], x, .always⟩ ∈ riscvImplicitSubsets := implicit_rows.2.1

theorem row_impliesD : ∀ a ∈ impliesD, ⟨a, ['d'], .always⟩ ∈ riscvImplicitSubsets ∧ a ≠ ['g'] ∧ a ≠ ['d'] :=
  implicit_rows.2.2

/-- What implies d is implied only by such. -/
theorem impliesD_of_chain (h : ReflTransGen (Demands nodes) a b) (hb : b ∈ impliesD) : a ∈ impliesD := by
  induction h with
  | refl => exact hb
  | tail _ hlast ih =>
    obtain ⟨r, hr, rfl, rfl, -⟩ := hlast
    exact ih ((implicit_rows.1 r hr).2.2.2.1 hb)

/-- What implies zve32x is implied only by such. -/
theorem impliesZve32x_of_chain (h : ReflTransGen (Demands nodes) a b) (hb : b ∈ impliesZve32x) :
    a ∈ impliesZve32x := by
  induction h with
  | refl => exact hb
  | tail _ hlast ih =>
    obtain ⟨r, hr, rfl, rfl, -⟩ := hlast
    exact ih ((implicit_rows.1 r hr).2.2.2.2.1 hb)

/-- What is implied is no vendor extension. -/
theorem Demands.class_ne_x (h : Demands nodes a b) : riscvGetPrefixClass b ≠ .x := by
  obtain ⟨r, hr, -, rfl, -⟩ := h
  exact (implicit_rows.1 r hr).2.2.2.2.2.2

/-! ### What is written -/

/-- A list with an i starts with it or with an e. -/
theorem SubsetList.Stored.head_base {l : SubsetList} (hl : l.Stored) {s : Subset} (hs : s ∈ l.nodes)
    (hname : s.name = ['i']) : ∃ first rest, l.nodes = first :: rest ∧ (first.name = ['e'] ∨ first.name = ['i']) := by
  cases hnodes : l.nodes with
  | nil =>
    rw [hnodes] at hs
    cases hs
  | cons first rest =>
    refine ⟨first, rest, rfl, ?_⟩
    rw [hnodes] at hs
    rcases List.mem_cons.mp hs with rfl | hrest
    · exact .inr hname
    · have hord := hl.ordered
      rw [hnodes] at hord
      have hlt := (List.pairwise_cons.mp hord).1 s hrest
      rw [hname] at hlt
      exact .inl ((hl.names first (by rw [hnodes]; exact List.mem_cons_self)).eq_e_of_lt_i hlt)

/-- Something from which a row starts is written, or it is the i after an e. -/
theorem shown_of_demands {l : SubsetList} (hl : l.Stored) (hdated : ∀ s ∈ l.nodes, Dated s)
    (h : Demands l.nodes a b) (hg : a ≠ ['g']) :
    ∃ y ∈ shownNodes l.nodes, y.name = a ∨ (y.name = ['e'] ∧ a = ['i']) := by
  obtain ⟨r, hr, rfl, rfl, s, hs, hname, -⟩ := h
  have hknown : s.unknown = false := (hdated s hs).known (hname ▸ hg) r hr hname.symm
  cases hnodes : l.nodes with
  | nil =>
    rw [hnodes] at hs
    cases hs
  | cons first rest =>
    have hmem := hs
    rw [hnodes] at hmem
    rcases List.mem_cons.mp hmem with rfl | hrest
    · exact ⟨s, mem_shownNodes.mpr (.inl rfl), .inl hname⟩
    · by_cases hi : s.name = ['i']
      · -- only an e stands before i
        have hord := hl.ordered
        rw [hnodes] at hord
        have hlt := (List.pairwise_cons.mp hord).1 s hrest
        rw [hi] at hlt
        have he := (hl.names first (by rw [hnodes]; exact List.mem_cons_self)).eq_e_of_lt_i hlt
        exact ⟨first, mem_shownNodes.mpr (.inl rfl), .inr ⟨he, hname ▸ hi⟩⟩
      · refine ⟨s, mem_shownNodes.mpr (.inr ⟨hrest, ?_⟩), .inl hname⟩
        simp [Subset.shown, hknown, hi]

/-- A chain from anything but g and x itself has something written at its start. -/
theorem shown_of_chain {l : SubsetList} (hl : l.Stored) (hdated : ∀ s ∈ l.nodes, Dated s) (hg : a ≠ ['g'])
    (h : TransGen (Demands l.nodes) a x) (hax : a ≠ x) (he : x ≠ ['e']) :
    ∃ y ∈ shownNodes l.nodes, y.name ≠ x ∧ TransGen (Demands l.nodes) y.name x := by
  obtain ⟨b, hab, -⟩ := TransGen.head'_iff.mp h
  obtain ⟨y, hy, rfl | ⟨hye, rfl⟩⟩ := shown_of_demands hl hdated hab hg
  · exact ⟨y, hy, hax, h⟩
  · refine ⟨y, hy, fun hyx => he (hyx ▸ hye), ?_⟩
    have hrow : Demands l.nodes ['e'] ['i'] :=
      demands_of_row implicit_rows_mem.1 ⟨y, (shownNodes_sublist _).subset hy, hye⟩
    rw [hye]
    exact h.head hrow

/-- g is not written. -/
theorem g_not_shown {l : SubsetList} (hl : l.Stored) (hdated : ∀ s ∈ l.nodes, Dated s)
    (hi : ['i'] ∈ nodeNames l.nodes) {y : Subset} (hy : y ∈ shownNodes l.nodes) : y.name ≠ ['g'] := by
  intro hg
  obtain ⟨s, hs, hname⟩ := hi
  obtain ⟨first, rest, hnodes, hbase⟩ := hl.head_base hs hname
  have hunknown := (hdated y ((shownNodes_sublist _).subset hy)).unknown hg
  rw [hnodes] at hy
  rcases mem_shownNodes.mp hy with rfl | ⟨-, hshown⟩
  · rw [hg] at hbase
    exact absurd hbase (by decide)
  · rw [Subset.shown, hunknown] at hshown
    cases hshown

end Demanded

/-! ## The whole update -/

section Update

variable {rps : Rps} {items : List Item} {st mid st' : ParseState} {x : Name}

/-- The list before the items, after them, and with what they imply. -/
structure UpdateRun (items : List Item) (st mid st' : ParseState) : Prop where
  old : ∀ s ∈ st.list.nodes, ParsedName s.name
  applied : Applied items st mid
  stored : st'.list.Stored
  dated : ∀ s ∈ st'.list.nodes, Dated s
  kept : ∀ s ∈ mid.list.nodes, s ∈ st'.list.nodes
  added : ∀ s ∈ st'.list.nodes, s ∈ mid.list.nodes ∨ riscvGetPrefixClass s.name ≠ .x
  /-- What follows from the list follows from it in lower case. -/
  least : LeastClosure riscvImplicitSubsets mid.list.lowered.nodes st'.list.lowered.nodes
  base : ['g'] ∈ nodeNames st.list.nodes → ['i'] ∈ nodeNames st.list.nodes
  good : ∀ i ∈ items, GoodName i.name ∨ riscvGetPrefixClass i.name = .x
  items : ∀ i ∈ items, i.name ≠ ['i'] ∧ i.name ≠ ['e'] ∧ i.name ≠ ['g']

/-- A name that no item names is there if it was there. -/
theorem UpdateRun.mem_of_old (h : UpdateRun items st mid st') {n : Name} (hitems : ∀ i ∈ items, i.name ≠ n)
    (hn : n ∈ nodeNames st.list.nodes) : n ∈ nodeNames st'.list.nodes := by
  obtain ⟨s, hs, rfl⟩ := hn
  exact ⟨s, h.kept s (h.applied.kept s hs hitems), rfl⟩

theorem UpdateRun.untouched (h : UpdateRun items st mid st') {s : Subset} (hs : s ∈ st.list.nodes)
    (hitems : ∀ i ∈ items, i.name ≠ s.name) (t : Subset) :
    (t ∈ st'.list.nodes ∧ t.name = s.name) ↔ t = s := by
  have hkept : s ∈ st'.list.nodes := h.kept s (h.applied.kept s hs hitems)
  constructor
  · rintro ⟨ht, hname⟩
    have hentry := entry_of_mem h.stored.ordered ht
    rw [hname, entry_of_mem h.stored.ordered hkept] at hentry
    exact (Option.some.inj hentry).symm
  · rintro rfl
    exact ⟨hkept, rfl⟩

/-! ### The names -/

/-- The names of a list in lower case. -/
theorem mem_lowered {l : SubsetList} {n : Name} (hn : riscvGetPrefixClass n ≠ .x) :
    n ∈ nodeNames l.lowered.nodes ↔ n ∈ nodeNames l.nodes := by
  constructor
  · rintro ⟨s, hs, hname⟩
    obtain ⟨t, ht, rfl⟩ := List.mem_map.mp hs
    have hname : lowered t.name = n := hname
    have hclass : riscvGetPrefixClass t.name ≠ .x := by rwa [← class_lowered, hname]
    rw [lowered_of_ne_x hclass] at hname
    exact ⟨t, ht, hname⟩
  · rintro ⟨s, hs, rfl⟩
    exact ⟨s.lowered, List.mem_map_of_mem hs, lowered_of_ne_x hn⟩

theorem Demands.lowered {l : SubsetList} (h : Demands l.nodes a b) : Demands l.lowered.nodes a b := by
  obtain ⟨r, hr, rfl, rfl, s, hs, hname, hcheck⟩ := h
  refine ⟨r, hr, rfl, rfl, s.lowered, List.mem_map_of_mem hs, ?_, ?_⟩
  · show Isa.lowered s.name = _
    rw [hname, (riscvImplicitSubsets_good r hr).1.parsed.lowered_eq]
  · rw [← hcheck]
    cases r.check <;> rfl

/-- What is demanded is there. -/
theorem UpdateRun.demands_mem (h : UpdateRun items st mid st') (hab : Demands st'.list.nodes a b) :
    b ∈ nodeNames st'.list.nodes :=
  (mem_lowered hab.class_ne_x).mp (h.least.demands_mem hab.lowered)

theorem UpdateRun.mem_of_chain (h : UpdateRun items st mid st') (ha : a ∈ nodeNames st'.list.nodes)
    (hchain : ReflTransGen (Demands st'.list.nodes) a b) : b ∈ nodeNames st'.list.nodes := by
  cases hchain with
  | refl => exact ha
  | tail _ hlast => exact h.demands_mem hlast

/-- A demand in lower case is one of the list itself, or that of xsfvcp in another case. -/
theorem demands_of_lowered {l : SubsetList} (h : Demands l.lowered.nodes a b) :
    Demands l.nodes a b ∨ (b = "zve32x".toList ∧ ∃ s ∈ l.nodes, s.name ≠ "xsfvcp".toList ∧
      riscvCompareSubsets s.name "xsfvcp".toList = .eq) := by
  obtain ⟨r, hr, rfl, rfl, s, hs, hname, hcheck⟩ := h
  obtain ⟨t, ht, rfl⟩ := List.mem_map.mp hs
  have hname : lowered t.name = r.subsetName := hname
  have hcheck : r.check.holds t = true := by
    rw [← hcheck]
    cases r.check <;> rfl
  by_cases heq : t.name = r.subsetName
  · exact .inl ⟨r, hr, rfl, rfl, t, ht, heq, hcheck⟩
  · have hx : riscvGetPrefixClass r.subsetName = .x := by
      by_contra hx
      refine heq ?_
      rw [← hname, lowered_of_ne_x]
      rwa [← class_lowered, hname]
    obtain rfl := (implicit_rows.1 r hr).2.2.2.2.2.1 hx
    refine .inr ⟨rfl, t, ht, heq, ?_⟩
    rw [← compare_lowered, hname]
    exact ReflCmp.compare_self

/-- Everything that implies zve32x leads to it. -/
theorem UpdateRun.chain_zve32x (h : UpdateRun items st mid st') :
    ∀ m ∈ impliesZve32x, m ∈ nodeNames st'.list.nodes →
      ReflTransGen (Demands st'.list.nodes) m "zve32x".toList := by
  have hstep {a b : Name} (hrow : ⟨a, b, .always⟩ ∈ riscvImplicitSubsets)
      (hb : b ∈ nodeNames st'.list.nodes → ReflTransGen (Demands st'.list.nodes) b "zve32x".toList)
      (ha : a ∈ nodeNames st'.list.nodes) : ReflTransGen (Demands st'.list.nodes) a "zve32x".toList := by
    have hdemands := demands_of_row hrow ha
    exact .head hdemands (hb (h.demands_mem hdemands))
  obtain ⟨r32f, r64x, r64f, r64d, rv, rfhmin, rfh, rsfvcp⟩ :
      implies "zve32f" "zve32x" ∈ riscvImplicitSubsets ∧ implies "zve64x" "zve32x" ∈ riscvImplicitSubsets ∧
      implies "zve64f" "zve32f" ∈ riscvImplicitSubsets ∧ implies "zve64d" "zve64f" ∈ riscvImplicitSubsets ∧
      implies "v" "zve64d" ∈ riscvImplicitSubsets ∧ implies "zvfhmin" "zve32f" ∈ riscvImplicitSubsets ∧
      implies "zvfh" "zvfhmin" ∈ riscvImplicitSubsets ∧ implies "xsfvcp" "zve32x" ∈ riscvImplicitSubsets := by
    decide +kernel
  have h32f := hstep r32f fun _ => .refl
  have h64x := hstep r64x fun _ => .refl
  have h64f := hstep r64f h32f
  have h64d := hstep r64d h64f
  have hv := hstep rv h64d
  have hfhmin := hstep rfhmin h32f
  have hfh := hstep rfh hfhmin
  have hsfvcp := hstep rsfvcp fun _ => .refl
  simp only [impliesZve32x, List.forall_mem_cons, List.not_mem_nil, false_implies, implies_true, and_true]
  exact ⟨fun _ => .refl, h32f, h64x, h64f, h64d, hv, hfhmin, hfh, hsfvcp⟩

/-- The names the list has before anything is implied. -/
theorem UpdateRun.keep_spec (h : UpdateRun items st mid st') :
    nodeNames mid.list.nodes ⊆ items.foldl Item.apply (nodeNames st.list.nodes) ∧
      ∀ n ∈ items.foldl Item.apply (nodeNames st.list.nodes), n ∉ nodeNames mid.list.nodes →
        riscvGetPrefixClass n = .x := by
  rw [h.applied.names]
  refine foldl_keep (fun _ hn => hn) (fun n hn hnot => absurd hn hnot) ?_ h.good
  rintro k ⟨s, hs, rfl⟩
  exact .inl (h.old s hs)

theorem UpdateRun.mem_of_mid (h : UpdateRun items st mid st') {n : Name} (hn : n ∈ nodeNames mid.list.nodes) :
    n ∈ nodeNames st'.list.nodes := by
  obtain ⟨s, hs, rfl⟩ := hn
  exact ⟨s, h.kept s hs, rfl⟩

/-- The new names are what the items say and what it implies, exactly when no addition is lost and no row is found for
a name in another case. -/
theorem UpdateRun.closure_iff (h : UpdateRun items st mid st') :
    AppliedClosure items st.list.nodes st'.list.nodes ↔
      NothingLost items st.list.nodes ∧ VendorRowPlain items st.list.nodes := by
  obtain ⟨hsub, hclass⟩ := h.keep_spec
  have hvendor {n : Name} (hn : n ∈ nodeNames st'.list.nodes) (hx : riscvGetPrefixClass n = .x) :
      n ∈ nodeNames mid.list.nodes := by
    obtain ⟨s, hs, rfl⟩ := hn
    rcases h.added s hs with hmid | hnot
    · exact ⟨s, hmid, rfl⟩
    · exact absurd hx hnot
  constructor
  · intro hclosure
    have hlost : NothingLost items st.list.nodes := by
      intro n hn
      rw [← h.applied.names]
      by_contra hnot
      exact hnot (hvendor ((hclosure n).mpr ⟨n, hn, .refl⟩) (hclass n hn hnot))
    refine ⟨hlost, ?_⟩
    rintro ⟨n, hn, hne, heq⟩
    -- the row is found for this name
    have hmid := hlost n hn
    rw [← h.applied.names] at hmid
    obtain ⟨s, hs, rfl⟩ := hmid
    have hlower : lowered s.name = "xsfvcp".toList := by
      have hparsed := (h.stored.names s (h.kept s hs)).lowered
      rw [← compare_lowered] at heq
      have hgood : GoodName "xsfvcp".toList := by decide
      exact (hgood.eq_of_compare hparsed (OrientedCmp.eq_symm heq)).symm
    have hdemands : Demands st'.list.lowered.nodes "xsfvcp".toList "zve32x".toList :=
      demands_of_row implicit_rows_mem.2.1 ⟨s.lowered, List.mem_map_of_mem (h.kept s hs), hlower⟩
    have hzve := (mem_lowered hdemands.class_ne_x).mp (h.least.demands_mem hdemands)
    obtain ⟨m, hm, hchain⟩ := (hclosure _).mp hzve
    exact ⟨m, impliesZve32x_of_chain hchain (by decide), hm⟩
  · rintro ⟨hlost, hplain⟩ n
    have hmid {m : Name} (hm : m ∈ items.foldl Item.apply (nodeNames st.list.nodes)) :
        m ∈ nodeNames mid.list.nodes := by
      rw [h.applied.names]
      exact hlost m hm
    constructor
    · intro hn
      by_cases hx : riscvGetPrefixClass n = .x
      · exact ⟨n, hsub (hvendor hn hx), .refl⟩
      · obtain ⟨m, hm, hchain⟩ := (h.least.mem_names_iff n).mp ((mem_lowered hx).mpr hn)
        revert hx
        clear hn
        -- along the chain in lower case
        induction hchain with
        | refl => exact fun hx => ⟨m, hsub ((mem_lowered hx).mp hm), .refl⟩
        | @tail b c hmb hbc ih =>
          intro _
          rcases demands_of_lowered hbc with hdemands | ⟨rfl, s, hs, hne, heq⟩
          · by_cases hb : riscvGetPrefixClass b = .x
            · exact ⟨b, hsub (hvendor hdemands.source_mem hb), .single hdemands⟩
            · obtain ⟨m', hm', hchain'⟩ := ih hb
              exact ⟨m', hm', hchain'.tail hdemands⟩
          · have hsx : riscvGetPrefixClass s.name = .x := by
              by_contra hx
              have hgood : GoodName "xsfvcp".toList := by decide
              exact hne (hgood.eq_of_compare ((h.stored.names s hs).parsed hx) (OrientedCmp.eq_symm heq)).symm
            obtain ⟨m', hm', hmem⟩ := hplain ⟨s.name, hsub (hvendor ⟨s, hs, rfl⟩ hsx), hne, heq⟩
            exact ⟨m', hmem, h.chain_zve32x m' hm' (h.mem_of_mid (hmid hmem))⟩
    · rintro ⟨m, hm, hchain⟩
      exact h.mem_of_chain (h.mem_of_mid (hmid hm)) hchain

/-- What g alone has brought back is implied by nothing that is written. -/
theorem UpdateRun.not_shown (h : UpdateRun items st mid st')
    (hclosure : AppliedClosure items st.list.nodes st'.list.nodes) (hx : ¬Removable items st.list.nodes x) :
    x ∈ nodeNames st'.list.nodes ∧
      ∀ y ∈ shownNodes st'.list.nodes, ¬TransGen (Demands st'.list.nodes) y.name x := by
  unfold Removable at hx
  push Not at hx
  obtain ⟨hg, hcomes, hd, hz⟩ := hx
  have hitem_g : ∀ i ∈ items, i.name ≠ ['g'] := fun i hi => (h.items i hi).2.2
  have hitem_i : ∀ i ∈ items, i.name ≠ ['i'] := fun i hi => (h.items i hi).1
  have hg' : ['g'] ∈ nodeNames st'.list.nodes := h.mem_of_old hitem_g hg
  have hi' : ['i'] ∈ nodeNames st'.list.nodes := h.mem_of_old hitem_i (h.base hg)
  refine ⟨h.demands_mem (demands_of_row (row_comesWithG x hcomes) hg'), ?_⟩
  intro y hy hchain
  obtain ⟨z, hyz, hzx⟩ := TransGen.tail'_iff.mp hchain
  rcases hzx.comesWithG hcomes with rfl | ⟨rfl, hzd⟩ | ⟨rfl, rfl, s, hs, hname, hcheck⟩
  · exact g_not_shown h.stored h.dated hi' hy (eq_g_of_chain hyz)
  · obtain ⟨m, hm, hmz⟩ := (hclosure z).mp hzx.source_mem
    exact hd rfl m (impliesD_of_chain hmz hzd) hm
  · -- the i is the one of the old list
    obtain ⟨t, ht, htname⟩ := h.base hg
    have hsame : s = t := by
      refine (h.untouched ht ?_ s).mp ⟨hs, hname.trans htname.symm⟩
      rw [htname]
      exact hitem_i
    exact hz rfl t ht htname (hsame ▸ hcheck)

/-- What g implies at once, something else implies too. -/
theorem UpdateRun.exists_demands (h : UpdateRun items st mid st')
    (hclosure : AppliedClosure items st.list.nodes st'.list.nodes) (hx : Removable items st.list.nodes x)
    (hold : ['g'] ∈ nodeNames st.list.nodes) (hgx : Demands st'.list.nodes ['g'] x) (hi : x ≠ ['i']) :
    ∃ a, a ≠ ['g'] ∧ a ≠ x ∧ Demands st'.list.nodes a x := by
  obtain ⟨-, -, hgd, hdf, hgf, hfzicsr, hizifencei⟩ := implicit_rows_mem
  have hg := hgx.source_mem
  have hfrom {a : Name} (hrow : ⟨['g'], a, .always⟩ ∈ riscvImplicitSubsets) : a ∈ nodeNames st'.list.nodes :=
    h.demands_mem (demands_of_row hrow hg)
  rcases hgx.of_g with rfl | rfl | rfl | hcomes
  · exact absurd rfl hi
  · exact ⟨['d'], by decide, by decide, demands_of_row hdf (hfrom hgd)⟩
  · exact ⟨['f'], by decide, by decide, demands_of_row hfzicsr (hfrom hgf)⟩
  · rcases hx with hnone | hnot | ⟨rfl, n, hn, hmem⟩ | ⟨rfl, s, hs, hname, hcheck⟩
    · exact absurd hold hnone
    · exact absurd hcomes hnot
    · obtain ⟨hrow, hng, hnd⟩ := row_impliesD n hn
      exact ⟨n, hng, hnd, demands_of_row hrow ((hclosure n).mpr ⟨n, hmem, .refl⟩)⟩
    · -- the i of the old list is still there
      have hs' : s ∈ st'.list.nodes :=
        ((h.untouched hs (fun i hi => hname ▸ (h.items i hi).1) s).mpr rfl).1
      exact ⟨['i'], by decide, by decide, ⟨['i'], "zifencei".toList, .forI⟩, hizifencei, rfl, rfl, s, hs', hname,
        hcheck⟩

/-- What comes back is implied by something that is written. -/
theorem UpdateRun.exists_shown (h : UpdateRun items st mid st')
    (hclosure : AppliedClosure items st.list.nodes st'.list.nodes) (hx : Removable items st.list.nodes x)
    (hdropped : Dropped items x) (hmem : x ∈ nodeNames st'.list.nodes) :
    ∃ y ∈ shownNodes st'.list.nodes, y.name ≠ x ∧ TransGen (Demands st'.list.nodes) y.name x := by
  obtain ⟨item, hitem, rfl⟩ := hdropped.exists_item
  obtain ⟨hi, he, -⟩ := h.items item hitem
  obtain ⟨m, hm, hchain⟩ := (hclosure _).mp hmem
  have hne : m ≠ item.name := by
    rintro rfl
    exact hdropped.not_mem _ hm
  have hchain : TransGen (Demands st'.list.nodes) m item.name :=
    (reflTransGen_iff_eq_or_transGen.mp hchain).resolve_left fun heq => hne heq.symm
  by_cases hg : m = ['g']
  · subst hg
    have hold : ['g'] ∈ nodeNames st.list.nodes :=
      (mem_foldl_apply_of_ne fun i hi => (h.items i hi).2.2).mp hm
    obtain ⟨b, hgb, hbx⟩ := TransGen.head'_iff.mp hchain
    by_cases hbx' : b = item.name
    · obtain ⟨a, hag, hax, ha⟩ := h.exists_demands hclosure hx hold (hbx' ▸ hgb) hi
      exact shown_of_chain h.stored h.dated hag (.single ha) hax he
    · have hchain : TransGen (Demands st'.list.nodes) b item.name :=
        (reflTransGen_iff_eq_or_transGen.mp hbx).resolve_left fun heq => hbx' heq.symm
      refine shown_of_chain h.stored h.dated ?_ hchain hbx' he
      rintro rfl
      exact not_demands_g hgb
  · exact shown_of_chain h.stored h.dated hg hchain hne he

theorem UpdateRun.updated_iff (h : UpdateRun items st mid st') :
    Updated items st.list.nodes st'.list.nodes ↔
      (∀ x, Dropped items x → Removable items st.list.nodes x) ∧ NothingLost items st.list.nodes ∧
        VendorRowPlain items st.list.nodes := by
  constructor
  · intro hupdated
    refine ⟨fun x hdropped => ?_, h.closure_iff.mp hupdated.closure⟩
    by_contra hx
    obtain ⟨hmem, hnone⟩ := h.not_shown hupdated.closure hx
    obtain ⟨y, hy, -, hchain⟩ := hupdated.dropped x hdropped hmem
    exact hnone y hy hchain
  · rintro ⟨hremovable, hvendor⟩
    have hclosure := h.closure_iff.mpr hvendor
    exact ⟨hclosure, fun s hs hitems => h.untouched hs hitems,
      fun x hdropped => h.exists_shown hclosure (hremovable x hdropped) hdropped⟩

/-- An update of the list of an accepted string means what it says, exactly when what it removes does not come
with g, and no vendor extension is in the way of another one that differs only in case. -/
theorem riscvUpdateSubset_updated_iff (rps : Rps) (hrps : rps.Assembler) (arch : List Char) (st₀ st : ParseState)
    (hempty : st₀.list = {}) (harch : riscvParseSubset rps (some arch) st₀ = (true, st)) (str : List Char)
    (items : List Item)
    (hitems : updateItems rps.checkUnknownPrefixedExt str (str.length + 1) str = some items) :
    Updated items st.list.nodes (riscvUpdateSubset rps str st).2.list.nodes ↔
      (∀ x, Dropped items x → Removable items st.list.nodes x) ∧ NothingLost items st.list.nodes ∧
        VendorRowPlain items st.list.nodes := by
  obtain ⟨xlen, ts, hform, rfl, -⟩ := riscvParseSubset_eq_true_iff.mp harch
  obtain ⟨hacc, -⟩ := hform.accepted (hempty ▸ .nil : st₀.list.Parsed)
  set st := riscvParseAddImplicitSubsets rps (namedState rps xlen ts st₀) with hst
  have hgood : ∀ i ∈ items, (GoodName i.name ∨ riscvGetPrefixClass i.name = .x) ∧
      i.name ≠ ['i'] ∧ i.name ≠ ['e'] ∧ i.name ≠ ['g'] := updateItems_good (hrps.check ▸ hitems)
  have happlied : Applied items st (items.foldl (Item.run rps) st) :=
    foldl_run hrps hacc.parsed.stored (hacc.dated hrps hempty) fun i hi =>
      ⟨(hgood i hi).1.imp (·.parsed) id, (hgood i hi).2.2.2⟩
  set mid := items.foldl (Item.run rps) st
  obtain ⟨hlower, hextends⟩ := @addImplicitSubsets_lowered rps _ _ riscvImplicitSubsets_good happlied.stored
  have hleast := (riscvParseAddImplicitSubsets_least rps mid.lowered happlied.stored.lowered).2.1
  rw [riscvParseAddImplicitSubsets, hlower] at hleast
  have hrun : UpdateRun items st mid (riscvParseAddImplicitSubsets rps mid) := by
    refine ⟨hacc.parsed.names, happlied, hextends.stored, ?_, hextends.kept, ?_, hleast, ?_,
      fun i hi => (hgood i hi).1, fun i hi => (hgood i hi).2⟩
    · intro s hs
      rcases hextends.added s hs with hmid | ⟨r, -, rfl⟩
      · exact happlied.dated s hmid
      · exact dated_implied hrps _
    · intro s hs
      rcases hextends.added s hs with hmid | ⟨r, hr, rfl⟩
      · exact .inl hmid
      · exact .inr (implicit_rows.1 r hr).2.2.2.2.2.2
    · rintro ⟨s, hs, hname⟩
      exact hacc.implied_mem (r := implies "g" "i") (by decide) rfl hs hname
  rw [riscvUpdateSubset, updateLoop_of_items hitems, (riscvParseCheckConflicts_list _).1]
  exact hrun.updated_iff

/-- The assembler with its default specification. -/
def gasRps : Rps := ⟨some .c20191213, true⟩

theorem gasRps_assembler : gasRps.Assembler := ⟨⟨_, by decide, rfl⟩, rfl⟩

/-- What is left of `rv64gc` after `-c`. -/
theorem rv64gc_updated :
    Updated [.remove ['c']] (riscvParseSubset gasRps (some "rv64gc".toList) {}).2.list.nodes
      (riscvUpdateSubset gasRps "-c".toList (riscvParseSubset gasRps (some "rv64gc".toList) {}).2).2.list.nodes := by
  obtain ⟨haccepted, hitems, hnone⟩ : (riscvParseSubset gasRps (some "rv64gc".toList) {}).1 = true ∧
      updateItems true "-c".toList ("-c".toList.length + 1) "-c".toList = some [.remove ['c']] ∧
      ∀ s ∈ (riscvParseSubset gasRps (some "rv64gc".toList) {}).2.list.nodes,
        riscvCompareSubsets s.name "xsfvcp".toList ≠ .eq := by
    decide +kernel
  have harch : riscvParseSubset gasRps (some "rv64gc".toList) {} =
      (true, (riscvParseSubset gasRps (some "rv64gc".toList) {}).2) := Prod.ext haccepted rfl
  have hiff := riscvUpdateSubset_updated_iff gasRps gasRps_assembler "rv64gc".toList {} _ rfl harch "-c".toList
    [.remove ['c']] hitems
  refine hiff.mpr ⟨?_, fun n hn => hn, ?_⟩
  · intro x hx
    obtain ⟨i, hi, rfl⟩ := hx.exists_item
    rw [List.mem_singleton.mp hi]
    exact .inr (.inl (by decide))
  · rintro ⟨n, ⟨⟨s, hs, rfl⟩, -⟩, -, heq⟩
    exact absurd heq (hnone s hs)

/-- `rv32g` keeps its d in spite of `-d`. -/
theorem rv32g_not_updated :
    (riscvParseSubset gasRps (some "rv32g".toList) {}).1 = true ∧
      updateItems true "-d".toList ("-d".toList.length + 1) "-d".toList = some [.remove ['d']] ∧
      (riscvUpdateSubset gasRps "-d".toList (riscvParseSubset gasRps (some "rv32g".toList) {}).2).1 = true ∧
      ¬Updated [.remove ['d']] (riscvParseSubset gasRps (some "rv32g".toList) {}).2.list.nodes
        (riscvUpdateSubset gasRps "-d".toList (riscvParseSubset gasRps (some "rv32g".toList) {}).2).2.list.nodes := by
  -- one evaluation, so that each string is read once
  obtain ⟨⟨haccepted, hitems, hupdate⟩, hmem, hother, hshown⟩ :
      ((riscvParseSubset gasRps (some "rv32g".toList) {}).1 = true ∧
        updateItems true "-d".toList ("-d".toList.length + 1) "-d".toList = some [.remove ['d']] ∧
        (riscvUpdateSubset gasRps "-d".toList (riscvParseSubset gasRps (some "rv32g".toList) {}).2).1 = true) ∧
      (∃ s ∈ (riscvUpdateSubset gasRps "-d".toList
        (riscvParseSubset gasRps (some "rv32g".toList) {}).2).2.list.nodes, s.name = ['d']) ∧
      (∀ s ∈ (riscvUpdateSubset gasRps "-d".toList
        (riscvParseSubset gasRps (some "rv32g".toList) {}).2).2.list.nodes, s.name ∉ impliesD) ∧
      ∀ s ∈ shownNodes (riscvUpdateSubset gasRps "-d".toList
        (riscvParseSubset gasRps (some "rv32g".toList) {}).2).2.list.nodes, s.name ≠ ['g'] := by
    decide +kernel
  refine ⟨haccepted, hitems, hupdate, fun hupdated => ?_⟩
  obtain ⟨y, hy, -, hchain⟩ := hupdated.dropped ['d'] ⟨[], [], rfl, by simp⟩ hmem
  obtain ⟨z, hyz, hzd⟩ := TransGen.tail'_iff.mp hchain
  rcases hzd.comesWithG (by decide) with rfl | ⟨-, hz⟩ | ⟨hname, -⟩
  · exact hshown y hy (eq_g_of_chain hyz)
  · obtain ⟨s, hs, rfl⟩ := hzd.source_mem
    exact hother s hs hz
  · cases hname

end Update

end RiscvBinutils.Isa
