/-
The list of enabled extensions (bfd/elfxx-riscv.c, `riscv_subset_list_t` and the functions on it).  The nodes
are a list and `tail` is kept apart, as the code keeps it; a pointer to a node is the name in that node.
-/
import RiscvBinutils.Isa.Name
import Mathlib.Data.List.TakeWhile

namespace RiscvBinutils.Isa

open Std RiscvBinutils.Base

/-- `RISCV_UNKNOWN_VERSION`. -/
def riscvUnknownVersion : Int := -1

/-- `riscv_subset_t`, without the link. -/
structure Subset where
  name : Name
  major : Int
  minor : Int
  deriving DecidableEq, Repr

/-- `riscv_subset_list_t`; `none` is a null pointer. -/
structure SubsetList where
  nodes : List Subset := []
  tail : Option Name := none
  archStr : Option (List Char) := none
  deriving DecidableEq, Repr

/-! ## Searching -/

/-- What `riscv_lookup_subset` answers: the node, or the node to insert after. -/
inductive Lookup
  | found (s : Subset)
  | after (current : Option Name)
  deriving DecidableEq, Repr

/-- The loop of `riscv_lookup_subset`. -/
def scanSubset (subset : Name) : (pre : Option Name) → List Subset → Lookup
  | pre, [] => .after pre
  | pre, s :: rest =>
    match riscvCompareSubsets s.name subset with
    | .eq => .found s
    | .gt => .after pre
    | .lt => scanSubset subset (some s.name) rest

/-- `riscv_lookup_subset`, with its fast path through `tail`. -/
def riscvLookupSubset (l : SubsetList) (subset : Name) : Lookup :=
  if l.tail.any fun t => riscvCompareSubsets t subset = .lt then .after l.tail
  else scanSubset subset none l.nodes

/-- `riscv_lookup_subset` for its node. -/
def SubsetList.find (l : SubsetList) (subset : Name) : Option Subset :=
  match riscvLookupSubset l subset with
  | .found s => some s
  | .after _ => none

/-- `riscv_subset_supports`. -/
def SubsetList.supports (l : SubsetList) (feature : Name) : Bool := (l.find feature).isSome

/-! ## Changing -/

/-- Link a node after the one with this name. -/
def insertAfter (n : Name) (new : Subset) : List Subset → List Subset
  | [] => []
  | s :: rest => if s.name = n then s :: new :: rest else s :: insertAfter n new rest

/-- The nodes after the one with this name. -/
def nodesAfter (n : Name) : List Subset → List Subset
  | [] => []
  | s :: rest => if s.name = n then rest else nodesAfter n rest

/-- `riscv_add_subset`. -/
def riscvAddSubset (l : SubsetList) (subset : Name) (major minor : Int) : SubsetList :=
  match riscvLookupSubset l subset with
  | .found _ => l
  | .after current =>
    let new : Subset := ⟨subset, major, minor⟩
    let nodes :=
      match current with
      | some n => insertAfter n new l.nodes
      | none => new :: l.nodes
    let next :=
      match current with
      | some n => nodesAfter n l.nodes
      | none => l.nodes
    { l with nodes, tail := if next = [] then some subset else l.tail }

/-- `riscv_release_subset_list`. -/
def riscvReleaseSubsetList (_ : SubsetList) : SubsetList := {}

/-- The list that `riscv_copy_subset_list` makes.  `tail` is only written with the last node: for an empty list it
stays what `xmalloc` returned, which is the argument `junk`. -/
def copiedSubsetList (junk : Option Name) (l : SubsetList) : SubsetList where
  nodes := l.nodes
  tail := if l.nodes = [] then junk else l.nodes.getLast?.map (·.name)
  archStr := l.archStr

/-- `riscv_copy_subset_list`; `none` if `strdup` reads a null pointer. -/
def riscvCopySubsetList (junk : Option Name) (l : SubsetList) : Option SubsetList :=
  if l.archStr = none then none else some (copiedSubsetList junk l)

/-- `riscv_remove_subset`. -/
def riscvRemoveSubset (l : SubsetList) (subset : Name) : SubsetList :=
  let pre := l.nodes.takeWhile (·.name ≠ subset)
  match l.nodes.dropWhile (·.name ≠ subset) with
  | [] => l
  | _ :: next =>
    { l with nodes := pre ++ next, tail := if next = [] then pre.getLast?.map (·.name) else l.tail }

/-! ## The invariant -/

/-- Strictly increasing names, and `tail` at the last node. -/
structure SubsetList.Wf (l : SubsetList) : Prop where
  ordered : Ordered riscvCompareSubsets Subset.name l.nodes
  tail : l.tail = l.nodes.getLast?.map (·.name)

/-- The entry a search should find. -/
def entry (n : Name) (nodes : List Subset) : Option Subset := findKey riscvCompareSubsets Subset.name n nodes

/-- The last node below a name. -/
def lastBelow (n : Name) (pre : Option Name) : List Subset → Option Name
  | [] => pre
  | s :: rest => if riscvCompareSubsets s.name n = .lt then lastBelow n (some s.name) rest else pre

theorem SubsetList.Wf.nil : ({} : SubsetList).Wf := ⟨List.Pairwise.nil, rfl⟩

section Entry

variable {nodes : List Subset}

@[simp] theorem entry_nil (n : Name) : entry n [] = none := rfl

theorem entry_cons (n : Name) (s : Subset) (rest : List Subset) :
    entry n (s :: rest) = if riscvCompareSubsets s.name n = .eq then some s else entry n rest :=
  findKey_cons n s rest

theorem entry_mem {n : Name} {s : Subset} (h : entry n nodes = some s) : s ∈ nodes := findKey_mem h

theorem entry_compare {n : Name} {s : Subset} (h : entry n nodes = some s) :
    riscvCompareSubsets s.name n = .eq := findKey_eq h

theorem entry_of_mem (hord : Ordered riscvCompareSubsets Subset.name nodes) {s : Subset} (h : s ∈ nodes) :
    entry s.name nodes = some s := hord.findKey_of_mem h

theorem entry_eq_some_iff (hord : Ordered riscvCompareSubsets Subset.name nodes) {n : Name} {s : Subset} :
    entry n nodes = some s ↔ s ∈ nodes ∧ riscvCompareSubsets s.name n = .eq := hord.findKey_eq_some_iff

/-- Ordered lists with the same entries are the same. -/
theorem ordered_ext {nodes' : List Subset} (hord : Ordered riscvCompareSubsets Subset.name nodes)
    (hord' : Ordered riscvCompareSubsets Subset.name nodes') (h : ∀ s, s ∈ nodes ↔ s ∈ nodes') :
    nodes = nodes' := by
  refine hord.ext hord' fun k => ?_
  cases hk : findKey riscvCompareSubsets Subset.name k nodes with
  | none =>
    refine (findKey_eq_none_iff.mpr fun a ha => ?_).symm
    exact findKey_eq_none_iff.mp hk a ((h a).mpr ha)
  | some s =>
    rw [findKey_congr (OrientedCmp.eq_symm (findKey_eq hk)), hord'.findKey_of_mem ((h s).mp (findKey_mem hk))]

theorem entry_none_of_below {n : Name} (h : ∀ a ∈ nodes, riscvCompareSubsets a.name n = .lt) :
    entry n nodes = none := by
  refine findKey_eq_none_iff.mpr fun a ha => ?_
  rw [h a ha]
  exact Ordering.noConfusion

end Entry

section Scan

variable {nodes : List Subset}

/-- The full scan finds the entry, or the last node below the name. -/
theorem scanSubset_eq (n : Name) (h : Ordered riscvCompareSubsets Subset.name nodes) (pre : Option Name) :
    scanSubset n pre nodes =
      match entry n nodes with
      | some s => .found s
      | none => .after (lastBelow n pre nodes) := by
  induction nodes generalizing pre with
  | nil => rfl
  | cons s rest ih =>
    obtain ⟨-, hrest⟩ := List.pairwise_cons.mp h
    rw [scanSubset, lastBelow]
    split
    · rename_i heq
      rw [entry_cons, if_pos heq]
    · rename_i hgt
      have hnone : entry n (s :: rest) = none := findKey_eq_none_of_lt h hgt
      rw [hnone, if_neg (by rw [hgt]; exact Ordering.noConfusion)]
    · rename_i hlt
      rw [ih hrest, entry_cons, if_neg (by rw [hlt]; exact Ordering.noConfusion), if_pos hlt]

/-- When the last node is below a name, all are. -/
theorem below_of_getLast {s : Subset} {n : Name} (h : Ordered riscvCompareSubsets Subset.name nodes)
    (hlast : nodes.getLast? = some s) (hs : riscvCompareSubsets s.name n = .lt) :
    ∀ a ∈ nodes, riscvCompareSubsets a.name n = .lt := by
  obtain ⟨before, rfl⟩ := List.getLast?_eq_some_iff.mp hlast
  intro a ha
  rcases List.mem_append.mp ha with ha | ha
  · exact TransCmp.lt_trans ((List.pairwise_append.mp h).2.2 a ha s (List.mem_singleton_self s)) hs
  · rw [List.mem_singleton.mp ha]
    exact hs

theorem lastBelow_append {n : Name} {lower upper : List Subset}
    (hlower : ∀ a ∈ lower, riscvCompareSubsets a.name n = .lt)
    (hupper : ∀ b ∈ upper.head?, riscvCompareSubsets b.name n ≠ .lt) (pre : Option Name) :
    lastBelow n pre (lower ++ upper) = (lower.getLast?.map (·.name)).or pre := by
  induction lower generalizing pre with
  | nil =>
    cases upper with
    | nil => rfl
    | cons b upper =>
      rw [List.nil_append, lastBelow, if_neg (hupper b rfl)]
      rfl
  | cons s lower ih =>
    rw [List.cons_append, lastBelow, if_pos (hlower s List.mem_cons_self),
      ih fun a ha => hlower a (List.mem_cons_of_mem _ ha)]
    cases lower with
    | nil => rfl
    | cons t lower =>
      rw [List.getLast?_cons_cons, List.getLast?_cons]
      rfl

end Scan

/-! ### Where a new node goes -/

section Insert

variable {n : Name} {new : Subset} {lower upper : List Subset}

theorem insertAfter_append {s : Subset} (h : ∀ a ∈ lower, a.name ≠ s.name) :
    insertAfter s.name new (lower ++ s :: upper) = lower ++ s :: new :: upper := by
  induction lower with
  | nil => rw [List.nil_append, insertAfter, if_pos rfl, List.nil_append]
  | cons a lower ih =>
    rw [List.cons_append, insertAfter, if_neg (h a List.mem_cons_self),
      ih fun b hb => h b (List.mem_cons_of_mem _ hb), List.cons_append]

theorem nodesAfter_append {s : Subset} (h : ∀ a ∈ lower, a.name ≠ s.name) :
    nodesAfter s.name (lower ++ s :: upper) = upper := by
  induction lower with
  | nil => rw [List.nil_append, nodesAfter, if_pos rfl]
  | cons a lower ih =>
    rw [List.cons_append, nodesAfter, if_neg (h a List.mem_cons_self),
      ih fun b hb => h b (List.mem_cons_of_mem _ hb)]

theorem insertNew_between (hlower : ∀ a ∈ lower, riscvCompareSubsets a.name new.name = .lt)
    (hupper : ∀ b ∈ upper.head?, riscvCompareSubsets b.name new.name = .gt) :
    insertNew riscvCompareSubsets Subset.name new (lower ++ upper) = lower ++ new :: upper := by
  induction lower with
  | nil =>
    cases upper with
    | nil => rfl
    | cons b upper =>
      rw [List.nil_append, insertNew, hupper b rfl]
      rfl
  | cons a lower ih =>
    rw [List.cons_append, insertNew, hlower a List.mem_cons_self,
      ih fun b hb => hlower b (List.mem_cons_of_mem _ hb), List.cons_append]

/-- Without an entry for the name, the nodes split into those below it and those above it. -/
theorem split_at {nodes : List Subset} (hnone : entry n nodes = none) :
    ∃ lower upper, nodes = lower ++ upper ∧ (∀ a ∈ lower, riscvCompareSubsets a.name n = .lt) ∧
      ∀ b ∈ upper.head?, riscvCompareSubsets b.name n = .gt := by
  refine ⟨nodes.takeWhile fun s => riscvCompareSubsets s.name n = .lt,
    nodes.dropWhile fun s => riscvCompareSubsets s.name n = .lt, List.takeWhile_append_dropWhile.symm, ?_, ?_⟩
  · intro a ha
    have hlt := List.mem_takeWhile_imp ha
    exact of_decide_eq_true hlt
  · intro b hb
    have hlt : riscvCompareSubsets b.name n ≠ .lt := by
      have := List.head?_dropWhile_not (fun s : Subset => decide (riscvCompareSubsets s.name n = .lt)) nodes
      rw [Option.mem_def.mp hb] at this
      exact of_decide_eq_false this
    have hne : riscvCompareSubsets b.name n ≠ .eq :=
      findKey_eq_none_iff.mp hnone b (List.dropWhile_subset _ (List.mem_of_mem_head? hb))
    cases hcmp : riscvCompareSubsets b.name n with
    | lt => exact absurd hcmp hlt
    | eq => exact absurd hcmp hne
    | gt => rfl

end Insert

section Ops

variable {l : SubsetList}

/-- The fast path answers as the full scan would. -/
theorem riscvLookupSubset_eq_scan (h : l.Wf) (n : Name) : riscvLookupSubset l n = scanSubset n none l.nodes := by
  unfold riscvLookupSubset
  split
  · rename_i hfast
    obtain ⟨t, htail, hlt⟩ := Option.any_eq_true _ _ |>.mp hfast
    have hlast := h.tail
    rw [htail] at hlast
    obtain ⟨s, hs, hname⟩ := Option.map_eq_some_iff.mp hlast.symm
    have hbelow := below_of_getLast h.ordered hs (by rw [hname]; exact of_decide_eq_true hlt)
    have hcurrent : lastBelow n none (l.nodes ++ []) = _ := lastBelow_append hbelow (by simp) none
    rw [List.append_nil, Option.or_none] at hcurrent
    rw [scanSubset_eq n h.ordered, entry_none_of_below hbelow, hcurrent, h.tail]
  · rfl

theorem find_eq (h : l.Wf) (n : Name) : l.find n = entry n l.nodes := by
  unfold SubsetList.find
  rw [riscvLookupSubset_eq_scan h, scanSubset_eq n h.ordered]
  cases entry n l.nodes <;> rfl

/-- `riscv_add_subset` without an entry for the name, in terms of the nodes below and above it. -/
theorem riscvAddSubset_split (h : l.Wf) {n : Name} (major minor : Int) {lower upper : List Subset}
    (hsplit : l.nodes = lower ++ upper) (hlower : ∀ a ∈ lower, riscvCompareSubsets a.name n = .lt)
    (hupper : ∀ b ∈ upper.head?, riscvCompareSubsets b.name n = .gt) (hnone : entry n l.nodes = none) :
    riscvAddSubset l n major minor =
      { l with
        nodes := lower ++ ⟨n, major, minor⟩ :: upper
        tail := if upper = [] then some n else l.tail } := by
  have hcurrent := lastBelow_append hlower (fun b hb => by rw [hupper b hb]; exact Ordering.noConfusion) none
  rw [← hsplit, Option.or_none] at hcurrent
  unfold riscvAddSubset
  rw [riscvLookupSubset_eq_scan h, scanSubset_eq n h.ordered, hnone]
  dsimp only
  rw [hcurrent]
  rcases List.eq_nil_or_concat lower with rfl | ⟨below, s, rfl⟩
  · rw [List.nil_append] at hsplit ⊢
    rw [← hsplit]
    rfl
  · -- the node to insert after is found by its name, which no node before it has
    have hord := h.ordered
    rw [hsplit, List.concat_eq_append, List.append_assoc, List.singleton_append] at hord
    have hdistinct : ∀ a ∈ below, a.name ≠ s.name := by
      intro a ha heq
      have hlt := (List.pairwise_append.mp hord).2.2 a ha s List.mem_cons_self
      have hself : riscvCompareSubsets s.name s.name = .eq := ReflCmp.compare_self
      rw [heq, hself] at hlt
      cases hlt
    have hlast : (below.concat s).getLast?.map (·.name) = some s.name := by
      rw [List.concat_eq_append, List.getLast?_concat]
      rfl
    rw [hlast, hsplit, List.concat_eq_append, List.append_assoc, List.singleton_append]
    simp only [insertAfter_append hdistinct, nodesAfter_append hdistinct, List.append_assoc, List.singleton_append]

/-- `riscv_add_subset` inserts at the place of the name, unless there is an entry. -/
theorem riscvAddSubset_nodes (h : l.Wf) (n : Name) (major minor : Int) :
    (riscvAddSubset l n major minor).nodes =
      insertNew riscvCompareSubsets Subset.name ⟨n, major, minor⟩ l.nodes := by
  cases hentry : entry n l.nodes with
  | some s =>
    have hlookup : riscvLookupSubset l n = .found s := by
      rw [riscvLookupSubset_eq_scan h, scanSubset_eq n h.ordered, hentry]
    rw [riscvAddSubset, hlookup]
    exact (insertNew_of_find h.ordered (x := ⟨n, major, minor⟩) hentry).symm
  | none =>
    obtain ⟨lower, upper, hsplit, hlower, hupper⟩ := split_at hentry
    rw [riscvAddSubset_split h major minor hsplit hlower hupper hentry, hsplit]
    exact (insertNew_between hlower hupper).symm

theorem riscvAddSubset_wf (h : l.Wf) (n : Name) (major minor : Int) : (riscvAddSubset l n major minor).Wf := by
  refine ⟨?_, ?_⟩
  · rw [riscvAddSubset_nodes h]
    exact h.ordered.insertNew _
  · cases hentry : entry n l.nodes with
    | some s =>
      have hlookup : riscvLookupSubset l n = .found s := by
        rw [riscvLookupSubset_eq_scan h, scanSubset_eq n h.ordered, hentry]
      rw [riscvAddSubset, hlookup]
      exact h.tail
    | none =>
      obtain ⟨lower, upper, hsplit, hlower, hupper⟩ := split_at hentry
      rw [riscvAddSubset_split h major minor hsplit hlower hupper hentry]
      dsimp only
      split
      · rename_i hnil
        rw [hnil, List.getLast?_concat]
        rfl
      · rename_i hne
        rw [h.tail, hsplit, List.getLast?_append_of_ne_nil _ hne,
          List.getLast?_append_of_ne_nil _ (List.cons_ne_nil _ _), List.getLast?_cons_of_ne_nil hne]

theorem entry_add (h : l.Wf) (n k : Name) (major minor : Int) :
    entry k (riscvAddSubset l n major minor).nodes =
      (entry k l.nodes).or (if riscvCompareSubsets n k = .eq then some ⟨n, major, minor⟩ else none) := by
  rw [riscvAddSubset_nodes h]
  exact findKey_insertNew h.ordered ⟨n, major, minor⟩ k

theorem mem_of_mem_add (h : l.Wf) {n : Name} {major minor : Int} {s : Subset}
    (hs : s ∈ (riscvAddSubset l n major minor).nodes) : s = ⟨n, major, minor⟩ ∨ s ∈ l.nodes := by
  rw [riscvAddSubset_nodes h] at hs
  exact mem_insertNew hs

theorem mem_add_of_mem (h : l.Wf) (n : Name) (major minor : Int) {s : Subset} (hs : s ∈ l.nodes) :
    s ∈ (riscvAddSubset l n major minor).nodes := by
  rw [riscvAddSubset_nodes h]
  exact subset_insertNew _ _ hs

theorem mem_add_self (h : l.Wf) {n : Name} (major minor : Int) (hnone : entry n l.nodes = none) :
    ⟨n, major, minor⟩ ∈ (riscvAddSubset l n major minor).nodes := by
  have hentry := entry_add h n n major minor
  have hself : riscvCompareSubsets n n = .eq := ReflCmp.compare_self
  rw [hnone, if_pos hself, Option.none_or] at hentry
  exact entry_mem hentry

theorem riscvRemoveSubset_wf (h : l.Wf) (n : Name) : (riscvRemoveSubset l n).Wf := by
  unfold riscvRemoveSubset
  dsimp only
  split
  · exact h
  · rename_i s next hdrop
    have hsplit : l.nodes.takeWhile (·.name ≠ n) ++ s :: next = l.nodes := by
      rw [← hdrop]
      exact List.takeWhile_append_dropWhile
    have hsub : (l.nodes.takeWhile (·.name ≠ n) ++ next).Sublist l.nodes := by
      have h := (List.sublist_cons_self s next).append_left (l.nodes.takeWhile (·.name ≠ n))
      rwa [hsplit] at h
    refine ⟨h.ordered.sublist hsub, ?_⟩
    dsimp only
    split
    · rename_i hnil
      rw [hnil, List.append_nil]
    · rename_i hne
      have hlast : l.nodes.getLast? = next.getLast? := by
        have h := congrArg List.getLast? hsplit
        rw [List.getLast?_append_of_ne_nil _ (List.cons_ne_nil _ _)] at h
        rw [← h, List.getLast?_cons_of_ne_nil hne]
      rw [h.tail, List.getLast?_append_of_ne_nil _ hne, hlast]

/-- Removing takes out the node of this name and no other. -/
theorem mem_remove (h : l.Wf) (n : Name) {s : Subset} :
    s ∈ (riscvRemoveSubset l n).nodes ↔ s ∈ l.nodes ∧ s.name ≠ n := by
  have hsplit := List.takeWhile_append_dropWhile (p := fun t : Subset => decide (t.name ≠ n)) (l := l.nodes)
  have hpre : ∀ t ∈ l.nodes.takeWhile (·.name ≠ n), t.name ≠ n := by
    intro t ht
    have hne := List.mem_takeWhile_imp ht
    exact of_decide_eq_true hne
  unfold riscvRemoveSubset
  dsimp only
  split
  · rename_i hdrop
    rw [hdrop, List.append_nil] at hsplit
    rw [hsplit] at hpre
    exact ⟨fun hs => ⟨hs, hpre s hs⟩, fun hs => hs.1⟩
  · rename_i removed next hdrop
    have hname : removed.name = n := by
      have hnot := List.head?_dropWhile_not (fun t : Subset => decide (t.name ≠ n)) l.nodes
      rw [hdrop] at hnot
      exact not_not.mp (of_decide_eq_false hnot)
    rw [hdrop] at hsplit
    -- the nodes behind have later names
    have hnext : ∀ t ∈ next, t.name ≠ n := by
      intro t ht heq
      have hord := h.ordered
      rw [← hsplit] at hord
      have hlt := (List.pairwise_cons.mp (List.pairwise_append.mp hord).2.1).1 t ht
      have hself : riscvCompareSubsets n n = .eq := ReflCmp.compare_self
      rw [hname, heq, hself] at hlt
      cases hlt
    dsimp only
    rw [← hsplit, List.mem_append, List.mem_append, List.mem_cons]
    rw [hsplit]
    constructor
    · rintro (hs | hs)
      · exact ⟨.inl hs, hpre s hs⟩
      · exact ⟨.inr (.inr hs), hnext s hs⟩
    · rintro ⟨hs | rfl | hs, hne⟩
      · exact .inl hs
      · exact absurd hname hne
      · exact .inr hs

/-- A copy that does not crash. -/
theorem riscvCopySubsetList_eq_some {junk : Option Name} {l l' : SubsetList}
    (h : riscvCopySubsetList junk l = some l') : l' = copiedSubsetList junk l := by
  rw [riscvCopySubsetList] at h
  split at h
  · cases h
  · exact (Option.some.inj h).symm

theorem copiedSubsetList_wf (h : l.Wf) (hne : l.nodes ≠ []) (junk : Option Name) : (copiedSubsetList junk l).Wf :=
  ⟨h.ordered, if_neg hne⟩

end Ops

/-! ### Lists of names from ISA strings -/

/-- A list whose names an ISA string can have. -/
structure SubsetList.Parsed (l : SubsetList) : Prop extends l.Wf where
  names : ∀ s ∈ l.nodes, ParsedName s.name

section Parsed

variable {l : SubsetList}

theorem SubsetList.Parsed.nil : ({} : SubsetList).Parsed := ⟨.nil, by simp⟩

theorem SubsetList.Parsed.add (h : l.Parsed) {n : Name} (hn : ParsedName n) (major minor : Int) :
    (riscvAddSubset l n major minor).Parsed := by
  refine ⟨riscvAddSubset_wf h.toWf n major minor, ?_⟩
  intro s hs
  rcases mem_of_mem_add h.toWf hs with rfl | hs
  · exact hn
  · exact h.names s hs

/-- A search for a good name finds that name. -/
theorem SubsetList.Parsed.name_of_entry (h : l.Parsed) {n : Name} (hn : GoodName n) {s : Subset}
    (hs : entry n l.nodes = some s) : s.name = n :=
  (hn.eq_of_compare (h.names s (entry_mem hs)) (OrientedCmp.eq_symm (entry_compare hs))).symm

theorem SubsetList.Parsed.find_eq_some_iff (h : l.Parsed) {n : Name} (hn : GoodName n) (s : Subset) :
    l.find n = some s ↔ s ∈ l.nodes ∧ s.name = n := by
  rw [find_eq h.toWf]
  constructor
  · intro hs
    exact ⟨entry_mem hs, h.name_of_entry hn hs⟩
  · rintro ⟨hs, rfl⟩
    exact entry_of_mem h.ordered hs

theorem SubsetList.Parsed.supports_iff (h : l.Parsed) {n : Name} (hn : GoodName n) :
    l.supports n = true ↔ ∃ s ∈ l.nodes, s.name = n := by
  rw [SubsetList.supports, Option.isSome_iff_exists]
  exact exists_congr fun s => h.find_eq_some_iff hn s

end Parsed

end RiscvBinutils.Isa
