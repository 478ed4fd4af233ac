/-
Names of ISA extensions and their order (bfd/elfxx-riscv.c, `riscv_get_prefix_class`, `riscv_ext_order` and
`riscv_compare_subsets`).  A C string is the list of its characters without the terminator.
`riscv_init_ext_order` has run: `riscv_parse_subset` starts with it, and no list is searched before that.
-/
import RiscvBinutils.Base.OrdList

namespace RiscvBinutils.Isa

open Std

abbrev Name := List Char

/-! ## Prefix classes -/

/-- `enum riscv_prefix_ext_class`. -/
inductive PrefixClass
  | z | s | zxm | x | single
  deriving DecidableEq, Repr

/-- The values of the enumeration. -/
def PrefixClass.order : PrefixClass → Nat
  | .z => 1
  | .s => 2
  | .zxm => 3
  | .x => 4
  | .single => 5

/-- `riscv_get_prefix_class`, the search through `parse_config`. -/
def riscvGetPrefixClass : Name → PrefixClass
  | 'z' :: 'x' :: 'm' :: _ => .zxm
  | 'z' :: _ => .z
  | 's' :: _ => .s
  | 'x' :: _ => .x
  | _ => .single

/-! ## The order -/

/-- `riscv_ext_canonical_order`. -/
def riscvExtCanonicalOrder : List Char := "eigmafdqlcbkjtpvnh".toList

/-- `riscv_ext_order`, as `riscv_init_ext_order` fills it in. -/
def riscvExtOrderTable : List Nat :=
  [5, 11, 10, 7, 1, 6, 3, 18, 2, 13, 12, 9, 4, 17, 0, 15, 8, 0, 0, 14, 0, 16, 0, 0, 0, 0]

/-- `riscv_ext_order[c - 'a']`; a character that is no lower-case letter reads outside the table, taken as 0
here. -/
def riscvExtOrder (c : Char) : Nat :=
  if c.toNat < 'a'.toNat then 0 else riscvExtOrderTable.getD (c.toNat - 'a'.toNat) 0

/-- The table is the position in the canonical order. -/
theorem riscvExtOrder_canonical : riscvExtCanonicalOrder.map riscvExtOrder = List.range' 1 18 := by
  decide

/-- `riscv_ext_order[*p - 'a']`. -/
def headOrder : Name → Nat
  | [] => 0
  | c :: _ => riscvExtOrder c

/-- `tolower`. -/
def toLower (c : Char) : Char :=
  if 'A' ≤ c ∧ c ≤ 'Z' then Char.ofNat (c.toNat + 32) else c

/-- `ISUPPER`. -/
def isUpper (c : Char) : Bool := 'A' ≤ c ∧ c ≤ 'Z'

/-- The sign of `strcasecmp`. -/
def strcasecmp : Name → Name → Ordering
  | [], [] => .eq
  | [], _ :: _ => .lt
  | _ :: _, [] => .gt
  | a :: as, b :: bs => (compare (toLower a).toNat (toLower b).toNat).then (strcasecmp as bs)

/-- The value compared: the table for standard names, minus the class for prefixed ones. -/
def prefixedOrder (name : Name) : Int :=
  match riscvGetPrefixClass name with
  | .single => headOrder name
  | c => -(c.order : Int)

/-- The sign of `riscv_compare_subsets`. -/
def riscvCompareSubsets (subset1 subset2 : Name) : Ordering :=
  if 0 < headOrder subset1 ∧ 0 < headOrder subset2 then compare (headOrder subset1) (headOrder subset2)
  else if prefixedOrder subset1 = prefixedOrder subset2 then
    if riscvGetPrefixClass subset1 = .z then
      if headOrder (subset1.drop 1) ≠ headOrder (subset2.drop 1) then
        compare (headOrder (subset1.drop 1)) (headOrder (subset2.drop 1))
      else strcasecmp (subset1.drop 2) (subset2.drop 2)
    else strcasecmp (subset1.drop 1) (subset2.drop 1)
  else compare (prefixedOrder subset2) (prefixedOrder subset1)

/-! ## The order as a key -/

section Key

/-- What decides the place of a name: standard names by their first letter, then names of no class, then the
classes in their order. -/
def rank (name : Name) : Nat :=
  if 0 < headOrder name then 0 else (riscvGetPrefixClass name).order % 5 + 1

def subrank (name : Name) : Nat :=
  if 0 < headOrder name then headOrder name
  else if riscvGetPrefixClass name = .z then headOrder (name.drop 1) else 0

def suffixKey (name : Name) : List Nat :=
  if 0 < headOrder name then []
  else (name.drop (if riscvGetPrefixClass name = .z then 2 else 1)).map fun c => (toLower c).toNat

theorem strcasecmp_eq (a b : Name) :
    strcasecmp a b = compare (a.map fun c => (toLower c).toNat) (b.map fun c => (toLower c).toNat) := by
  induction a generalizing b with
  | nil => cases b <;> rfl
  | cons c a ih =>
    cases b with
    | nil => rfl
    | cons d b =>
      rw [strcasecmp, ih, List.map_cons, List.map_cons, List.compare_cons_cons]

/-- The letters that start a prefix are not in the canonical order. -/
theorem class_eq_single_of_headOrder {name : Name} (h : 0 < headOrder name) :
    riscvGetPrefixClass name = .single := by
  unfold riscvGetPrefixClass
  split
  · exact absurd h (Nat.lt_irrefl 0)
  · exact absurd h (Nat.lt_irrefl 0)
  · exact absurd h (Nat.lt_irrefl 0)
  · exact absurd h (Nat.lt_irrefl 0)
  · rfl

theorem prefixedOrder_of_headOrder {name : Name} (h : 0 < headOrder name) :
    prefixedOrder name = headOrder name := by
  rw [prefixedOrder, class_eq_single_of_headOrder h]

theorem prefixedOrder_of_headOrder_eq_zero {name : Name} (h : headOrder name = 0) :
    prefixedOrder name = -(((riscvGetPrefixClass name).order % 5 : Nat) : Int) := by
  unfold prefixedOrder
  cases riscvGetPrefixClass name <;> simp [h, PrefixClass.order]

theorem prefixedOrder_nonpos {name : Name} (h : headOrder name = 0) : prefixedOrder name ≤ 0 := by
  rw [prefixedOrder_of_headOrder_eq_zero h]
  omega

/-- The comparison goes through the key. -/
theorem riscvCompareSubsets_eq (a b : Name) :
    riscvCompareSubsets a b = compareLex (compareOn rank)
      (compareLex (compareOn subrank) (compareOn suffixKey)) a b := by
  simp only [compareLex, compareOn]
  rw [riscvCompareSubsets]
  rcases Nat.eq_zero_or_pos (headOrder a) with ha | ha <;> rcases Nat.eq_zero_or_pos (headOrder b) with hb | hb
  · -- two prefixed names, or names of no class
    rw [if_neg (by omega)]
    rw [prefixedOrder_of_headOrder_eq_zero ha, prefixedOrder_of_headOrder_eq_zero hb]
    simp only [rank, subrank, suffixKey, ha, hb, Nat.lt_irrefl, if_false, strcasecmp_eq]
    by_cases hc : riscvGetPrefixClass a = riscvGetPrefixClass b
    · rw [if_pos (by rw [hc]), hc]
      simp only [compare_self, Ordering.eq_then]
      split
      · by_cases hs : headOrder (a.drop 1) = headOrder (b.drop 1)
        · rw [if_neg (not_not_intro hs), hs, ReflOrd.compare_self, Ordering.eq_then]
        · rw [if_pos hs]
          cases hcmp : compare (headOrder (a.drop 1)) (headOrder (b.drop 1)) with
          | eq => exact absurd (Nat.compare_eq_eq.mp hcmp) hs
          | lt => rfl
          | gt => rfl
      · simp
    · revert hc
      cases riscvGetPrefixClass a <;> cases riscvGetPrefixClass b <;>
        first | exact fun h => absurd rfl h | exact fun _ => rfl
  · rw [if_neg (by omega)]
    have hpa := prefixedOrder_nonpos ha
    rw [prefixedOrder_of_headOrder hb, if_neg (by omega), Int.compare_eq_gt.mpr (by omega)]
    have hrank : compare (rank a) (rank b) = .gt := by
      rw [rank, rank, if_neg (by omega), if_pos hb]
      exact Nat.compare_eq_gt.mpr (Nat.succ_pos _)
    rw [hrank, Ordering.gt_then]
  · rw [if_neg (by omega)]
    have hpb := prefixedOrder_nonpos hb
    rw [prefixedOrder_of_headOrder ha, if_neg (by omega), Int.compare_eq_lt.mpr (by omega)]
    have hrank : compare (rank a) (rank b) = .lt := by
      rw [rank, rank, if_pos ha, if_neg (by omega)]
      exact Nat.compare_eq_lt.mpr (Nat.succ_pos _)
    rw [hrank, Ordering.lt_then]
  · rw [if_pos ⟨ha, hb⟩]
    simp [rank, subrank, suffixKey, ha, hb]

instance : TransCmp riscvCompareSubsets := by
  have h : riscvCompareSubsets = compareLex (compareOn rank)
    (compareLex (compareOn subrank) (compareOn suffixKey)) := by
    funext a b
    exact riscvCompareSubsets_eq a b
  rw [h]
  infer_instance

end Key

/-! ## Names that the order tells apart -/

section GoodName

/-- A letter of the canonical order, or a prefixed name in lower case: what an ISA string can name. -/
def ParsedName (name : Name) : Prop :=
  (name.length = 1 ∧ 0 < headOrder name) ∨
    (riscvGetPrefixClass name ≠ .single ∧ ∀ c ∈ name, isUpper c = false)

/-- Whether all characters of a name are such is decided by going through the name. -/
instance (priority := 10000) decidableForallMemName (p : Char → Prop) [DecidablePred p] (name : List Char) :
    Decidable (∀ c ∈ name, p c) :=
  List.decidableBAll p name

instance (name : Name) : Decidable (ParsedName name) :=
  inferInstanceAs (Decidable (_ ∨ _))

/-- After a `z` stands a letter of the canonical order. -/
structure GoodName (name : Name) : Prop where
  parsed : ParsedName name
  second : riscvGetPrefixClass name = .z → 0 < headOrder (name.drop 1)

instance (name : Name) : Decidable (GoodName name) :=
  decidable_of_iff (ParsedName name ∧ (riscvGetPrefixClass name = .z → 0 < headOrder (name.drop 1)))
    ⟨fun h => ⟨h.1, h.2⟩, fun h => ⟨h.1, h.2⟩⟩

theorem toLower_of_not_upper {c : Char} (h : isUpper c = false) : toLower c = c := by
  unfold toLower
  rw [if_neg]
  exact of_decide_eq_false h

theorem lowerKey_inj {a b : Name} (ha : ∀ c ∈ a, isUpper c = false) (hb : ∀ c ∈ b, isUpper c = false)
    (h : (a.map fun c => (toLower c).toNat) = b.map fun c => (toLower c).toNat) : a = b := by
  have hmap {l : Name} (hl : ∀ c ∈ l, isUpper c = false) :
      (l.map fun c => (toLower c).toNat) = l.map Char.toNat := by
    apply List.map_congr_left
    intro c hc
    rw [toLower_of_not_upper (hl c hc)]
  rw [hmap ha, hmap hb] at h
  exact List.map_injective_iff.mpr (fun _ _ => Char.toNat_inj.mp) h

theorem riscvExtOrder_range {c : Char} (h : 0 < riscvExtOrder c) : 97 ≤ c.toNat ∧ c.toNat - 97 < 26 := by
  unfold riscvExtOrder at h
  split at h
  · exact absurd h (Nat.lt_irrefl 0)
  · rename_i hle
    refine ⟨Nat.le_of_not_lt hle, ?_⟩
    by_contra hge
    rw [List.getD_eq_getElem?_getD, List.getElem?_eq_none (Nat.le_of_not_lt hge)] at h
    exact absurd h (Nat.lt_irrefl 0)

/-- Different letters of the canonical order have different places. -/
theorem riscvExtOrder_inj {c d : Char} (hc : 0 < riscvExtOrder c) (h : riscvExtOrder c = riscvExtOrder d) :
    c = d := by
  have htable : ∀ m < 26, ∀ n < 26, 0 < riscvExtOrderTable.getD m 0 →
      riscvExtOrderTable.getD m 0 = riscvExtOrderTable.getD n 0 → m = n := by decide
  obtain ⟨hc97, hc26⟩ := riscvExtOrder_range hc
  obtain ⟨hd97, hd26⟩ := riscvExtOrder_range (h ▸ hc)
  have hread {e : Char} (he : 97 ≤ e.toNat) : riscvExtOrder e = riscvExtOrderTable.getD (e.toNat - 97) 0 :=
    if_neg (Nat.not_lt.mpr he)
  rw [hread hc97] at hc h
  rw [hread hd97] at h
  have := htable _ hc26 _ hd26 hc h
  exact Char.toNat_inj.mp (by omega)

theorem headOrder_inj {a b : Name} (ha : 0 < headOrder a) (h : headOrder a = headOrder b) :
    a.head? = b.head? := by
  cases a with
  | nil => exact absurd ha (Nat.lt_irrefl 0)
  | cons c a =>
    cases b with
    | nil =>
      rw [h] at ha
      exact absurd ha (Nat.lt_irrefl 0)
    | cons d b => exact congrArg some (riscvExtOrder_inj ha h)

/-- The first letter of a prefixed name. -/
def PrefixClass.letter : PrefixClass → Option Char
  | .z | .zxm => some 'z'
  | .s => some 's'
  | .x => some 'x'
  | .single => none

theorem head?_eq_letter {name : Name} (h : riscvGetPrefixClass name ≠ .single) :
    name.head? = (riscvGetPrefixClass name).letter := by
  revert h
  unfold riscvGetPrefixClass
  split
  · exact fun _ => rfl
  · exact fun _ => rfl
  · exact fun _ => rfl
  · exact fun _ => rfl
  · exact fun h => absurd rfl h

theorem eq_of_head?_drop {a b : Name} (hhead : a.head? = b.head?) (hdrop : a.drop 1 = b.drop 1) : a = b := by
  cases a with
  | nil =>
    cases b with
    | nil => rfl
    | cons d b => cases hhead
  | cons c a =>
    cases b with
    | nil => cases hhead
    | cons d b =>
      cases Option.some.inj hhead
      rw [List.drop_one, List.drop_one] at hdrop
      exact congrArg _ hdrop

theorem key_eq_of_compare {a b : Name} (h : riscvCompareSubsets a b = .eq) :
    rank a = rank b ∧ subrank a = subrank b ∧ suffixKey a = suffixKey b := by
  rw [riscvCompareSubsets_eq, compareLex_eq_eq, compareLex_eq_eq] at h
  obtain ⟨hrank, hsub, hsuffix⟩ := h
  exact ⟨LawfulEqOrd.eq_of_compare hrank, LawfulEqOrd.eq_of_compare hsub, LawfulEqOrd.eq_of_compare hsuffix⟩

theorem ParsedName.length_eq_one {n : Name} (h : ParsedName n) (ho : 0 < headOrder n) : n.length = 1 := by
  rcases h with h | h
  · exact h.1
  · exact absurd (class_eq_single_of_headOrder ho) h.1

theorem ParsedName.prefixed {n : Name} (h : ParsedName n) (ho : ¬0 < headOrder n) :
    riscvGetPrefixClass n ≠ .single ∧ ∀ c ∈ n, isUpper c = false :=
  h.resolve_left fun h => ho h.2

/-- What comes before a letter of the canonical order is an earlier letter. -/
theorem headOrder_lt_of_lt {a b : Name} (hb : 0 < headOrder b) (h : riscvCompareSubsets a b = .lt) :
    0 < headOrder a ∧ headOrder a < headOrder b := by
  have ha : 0 < headOrder a := by
    by_contra hzero
    have hrank : compare (rank a) (rank b) = .gt := by
      rw [rank, rank, if_neg hzero, if_pos hb]
      exact Nat.compare_eq_gt.mpr (Nat.succ_pos _)
    rw [riscvCompareSubsets_eq, compareLex, compareOn, hrank] at h
    cases h
  rw [riscvCompareSubsets, if_pos ⟨ha, hb⟩] at h
  exact ⟨ha, Nat.compare_eq_lt.mp h⟩

theorem ParsedName.eq_singleton {n : Name} (h : ParsedName n) {c : Char} (ho : 0 < headOrder n)
    (heq : headOrder n = riscvExtOrder c) : n = [c] := by
  obtain ⟨d, rfl⟩ := List.length_eq_one_iff.mp (h.length_eq_one ho)
  rw [riscvExtOrder_inj ho heq]

/-- Only e comes before i. -/
theorem eq_e_of_lt_i {n : Name} (hn : ParsedName n) (h : riscvCompareSubsets n ['i'] = .lt) : n = ['e'] := by
  obtain ⟨hpos, hlt⟩ := headOrder_lt_of_lt (by decide) h
  have hi : headOrder ['i'] = 2 := by decide
  have he : riscvExtOrder 'e' = 1 := by decide
  exact hn.eq_singleton hpos (by omega)

/-- Nothing comes before e. -/
theorem not_lt_e {n : Name} : riscvCompareSubsets n ['e'] ≠ .lt := by
  intro h
  obtain ⟨hpos, hlt⟩ := headOrder_lt_of_lt (by decide) h
  have he : headOrder ['e'] = 1 := by decide
  omega

/-- No name has an upper-case letter. -/
theorem ParsedName.lower {n : Name} (h : ParsedName n) : ∀ c ∈ n, isUpper c = false := by
  rcases h with ⟨hlen, horder⟩ | h
  · obtain ⟨d, rfl⟩ := List.length_eq_one_iff.mp hlen
    intro c hc
    rw [List.mem_singleton.mp hc]
    have hrange := (riscvExtOrder_range horder).1
    refine decide_eq_false ?_
    rintro ⟨-, hz⟩
    have hz : d.toNat ≤ 90 := hz
    omega
  · exact h.2

/-- Names that compare as equal are equal, but for two z names whose second letters have no place in the order. -/
theorem ParsedName.eq_of_compare {a b : Name} (ha : ParsedName a) (hb : ParsedName b)
    (h : riscvCompareSubsets a b = .eq)
    (hz : riscvGetPrefixClass a = .z → riscvGetPrefixClass b = .z → headOrder (a.drop 1) = 0 →
      headOrder (b.drop 1) = 0 → a.drop 2 = b.drop 2 → a = b) : a = b := by
  obtain ⟨hrank, hsub, hsuffix⟩ := key_eq_of_compare h
  have hzero {n : Name} (hn : 0 < headOrder n) : rank n = 0 := if_pos hn
  have hpos {n : Name} (hn : ¬0 < headOrder n) : rank n = (riscvGetPrefixClass n).order % 5 + 1 := if_neg hn
  by_cases hoa : 0 < headOrder a
  · have hob : 0 < headOrder b := by
      by_contra hob
      rw [hzero hoa, hpos hob] at hrank
      cases hrank
    obtain ⟨c, rfl⟩ := List.length_eq_one_iff.mp (ha.length_eq_one hoa)
    obtain ⟨d, rfl⟩ := List.length_eq_one_iff.mp (hb.length_eq_one hob)
    rw [subrank, subrank, if_pos hoa, if_pos hob] at hsub
    rw [riscvExtOrder_inj hoa hsub]
  · have hob : ¬0 < headOrder b := by
      intro hob
      rw [hpos hoa, hzero hob] at hrank
      cases hrank
    obtain ⟨hca, hla⟩ := ha.prefixed hoa
    obtain ⟨hcb, hlb⟩ := hb.prefixed hob
    have hclass : riscvGetPrefixClass a = riscvGetPrefixClass b := by
      rw [hpos hoa, hpos hob] at hrank
      revert hrank
      cases riscvGetPrefixClass a <;> cases riscvGetPrefixClass b <;> decide
    have hhead : a.head? = b.head? := by rw [head?_eq_letter hca, head?_eq_letter hcb, hclass]
    rw [suffixKey, suffixKey, if_neg hoa, if_neg hob, ← hclass] at hsuffix
    have hdrop := lowerKey_inj (fun c hc => hla c (List.mem_of_mem_drop hc))
      (fun c hc => hlb c (List.mem_of_mem_drop hc)) hsuffix
    by_cases hza : riscvGetPrefixClass a = .z
    · rw [subrank, subrank, if_neg hoa, if_neg hob, if_pos hza, if_pos (hclass ▸ hza)] at hsub
      rw [if_pos hza] at hdrop
      by_cases hsecond : 0 < headOrder (a.drop 1)
      · refine eq_of_head?_drop hhead (eq_of_head?_drop (headOrder_inj hsecond hsub) ?_)
        rwa [List.drop_drop, List.drop_drop]
      · have hnone : headOrder (a.drop 1) = 0 := Nat.eq_zero_of_not_pos hsecond
        exact hz hza (hclass ▸ hza) hnone (hsub ▸ hnone) hdrop
    · rw [if_neg hza] at hdrop
      exact eq_of_head?_drop hhead hdrop

/-- A good name is told apart from everything an ISA string can name. -/
theorem GoodName.eq_of_compare {a b : Name} (ha : GoodName a) (hb : ParsedName b)
    (h : riscvCompareSubsets a b = .eq) : a = b := by
  refine ha.parsed.eq_of_compare hb h fun hz _ hnone _ _ => ?_
  have hsecond := ha.second hz
  omega

end GoodName

end RiscvBinutils.Isa
