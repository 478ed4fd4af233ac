/-
Lists kept in strictly increasing order of a key, and insertion that keeps what is already there.  Keys are
compared by a function that may find different keys equal, so "the same key" always means `cmp k k' = .eq`.
-/
import Mathlib.Data.List.Basic

namespace RiscvBinutils.Base

open Std

section OrdList

variable {α κ : Type} (cmp : κ → κ → Ordering) (key : α → κ)

/-- Strictly increasing keys. -/
def Ordered (l : List α) : Prop :=
  l.Pairwise fun a b => cmp (key a) (key b) = .lt

/-- The entry with this key. -/
def findKey (k : κ) (l : List α) : Option α :=
  l.find? fun a => cmp (key a) k = .eq

/-- Insert at the place of the key, unless an entry is there. -/
def insertNew (x : α) : List α → List α
  | [] => [x]
  | a :: l =>
    match cmp (key a) (key x) with
    | .lt => a :: insertNew x l
    | .eq => a :: l
    | .gt => x :: a :: l

variable {cmp key}

@[simp] theorem findKey_nil (k : κ) : findKey cmp key k [] = none := rfl

theorem findKey_cons (k : κ) (a : α) (l : List α) :
    findKey cmp key k (a :: l) = if cmp (key a) k = .eq then some a else findKey cmp key k l := by
  unfold findKey
  rw [List.find?_cons]
  split
  · rename_i h
    rw [if_pos (of_decide_eq_true h)]
  · rename_i h
    rw [if_neg (of_decide_eq_false h)]

theorem findKey_append (k : κ) (l l' : List α) :
    findKey cmp key k (l ++ l') = (findKey cmp key k l).or (findKey cmp key k l') := List.find?_append

theorem findKey_mem {k : κ} {l : List α} {a : α} (h : findKey cmp key k l = some a) : a ∈ l :=
  List.mem_of_find?_eq_some h

theorem findKey_eq {k : κ} {l : List α} {a : α} (h : findKey cmp key k l = some a) : cmp (key a) k = .eq := by
  have := List.find?_some h
  exact of_decide_eq_true this

theorem findKey_eq_none_iff {k : κ} {l : List α} :
    findKey cmp key k l = none ↔ ∀ a ∈ l, cmp (key a) k ≠ .eq := by
  unfold findKey
  simp

variable [TransCmp cmp]

theorem findKey_congr {k k' : κ} (hk : cmp k k' = .eq) (l : List α) :
    findKey cmp key k l = findKey cmp key k' l := by
  unfold findKey
  simp only [TransCmp.congr_right hk]

theorem Ordered.findKey_of_mem {l : List α} (hl : Ordered cmp key l) {a : α} (ha : a ∈ l) :
    findKey cmp key (key a) l = some a := by
  induction l with
  | nil => cases ha
  | cons b l ih =>
    obtain ⟨hb, hl⟩ := List.pairwise_cons.mp hl
    rw [findKey_cons]
    rcases List.mem_cons.mp ha with rfl | ha
    · rw [if_pos ReflCmp.compare_self]
    · rw [if_neg, ih hl ha]
      rw [hb a ha]
      exact Ordering.noConfusion

theorem findKey_eq_none_of_lt {a : α} {l : List α} {k : κ} (hl : Ordered cmp key (a :: l))
    (hk : cmp (key a) k = .gt) : findKey cmp key k (a :: l) = none := by
  rw [findKey_eq_none_iff]
  intro b hb
  have hka := OrientedCmp.lt_of_gt hk
  rcases List.mem_cons.mp hb with rfl | hb
  · rw [hk]
    exact Ordering.noConfusion
  · have hlt := TransCmp.lt_trans hka ((List.pairwise_cons.mp hl).1 b hb)
    rw [OrientedCmp.gt_of_lt hlt]
    exact Ordering.noConfusion

/-- Two ordered lists that answer every search alike are the same. -/
theorem Ordered.ext {l l' : List α} (hl : Ordered cmp key l) (hl' : Ordered cmp key l')
    (h : ∀ k, findKey cmp key k l = findKey cmp key k l') : l = l' := by
  induction l generalizing l' with
  | nil =>
    cases l' with
    | nil => rfl
    | cons b l' =>
      have hb := h (key b)
      rw [hl'.findKey_of_mem List.mem_cons_self] at hb
      cases hb
  | cons a l ih =>
    cases l' with
    | nil =>
      have ha := h (key a)
      rw [hl.findKey_of_mem List.mem_cons_self] at ha
      cases ha
    | cons b l' =>
      -- each head is in the other list, so neither comes before the other
      have hab : a ∈ b :: l' := findKey_mem ((h (key a)).symm.trans (hl.findKey_of_mem List.mem_cons_self))
      have hba : b ∈ a :: l := findKey_mem ((h (key b)).trans (hl'.findKey_of_mem List.mem_cons_self))
      have heq : a = b := by
        rcases List.mem_cons.mp hab with rfl | hab
        · rfl
        · rcases List.mem_cons.mp hba with rfl | hba
          · rfl
          · have hlt := (List.pairwise_cons.mp hl).1 b hba
            have hgt := (List.pairwise_cons.mp hl').1 a hab
            exact absurd hgt (OrientedCmp.not_lt_of_lt hlt)
      subst heq
      obtain ⟨ha, hl⟩ := List.pairwise_cons.mp hl
      obtain ⟨ha', hl'⟩ := List.pairwise_cons.mp hl'
      congr 1
      apply ih hl hl'
      intro k
      by_cases hk : cmp (key a) k = .eq
      · have hnone {m : List α} (hm : ∀ b ∈ m, cmp (key a) (key b) = .lt) : findKey cmp key k m = none := by
          rw [findKey_eq_none_iff]
          intro b hb hbk
          have := TransCmp.lt_of_lt_of_eq (hm b hb) hbk
          rw [hk] at this
          cases this
        rw [hnone ha, hnone ha']
      · have := h k
        rwa [findKey_cons, findKey_cons, if_neg hk, if_neg hk] at this

/-! ### Insertion -/

omit [TransCmp cmp] in
theorem mem_insertNew {x a : α} {l : List α} (h : a ∈ insertNew cmp key x l) : a = x ∨ a ∈ l := by
  induction l with
  | nil => exact .inl (List.mem_singleton.mp h)
  | cons b l ih =>
    rw [insertNew] at h
    split at h
    · rcases List.mem_cons.mp h with rfl | h
      · exact .inr List.mem_cons_self
      · exact (ih h).imp_right (List.mem_cons_of_mem _)
    · exact .inr h
    · exact List.mem_cons.mp h

omit [TransCmp cmp] in
theorem subset_insertNew (x : α) (l : List α) : l ⊆ insertNew cmp key x l := by
  induction l with
  | nil => exact List.nil_subset _
  | cons b l ih =>
    rw [insertNew]
    split
    · exact List.cons_subset_cons _ ih
    · exact List.Subset.refl _
    · exact List.subset_cons_self _ _

theorem Ordered.insertNew {l : List α} (hl : Ordered cmp key l) (x : α) :
    Ordered cmp key (insertNew cmp key x l) := by
  induction l with
  | nil => exact List.pairwise_singleton _ _
  | cons b l ih =>
    obtain ⟨hb, hl'⟩ := List.pairwise_cons.mp hl
    rw [Base.insertNew]
    split
    · rename_i hlt
      refine List.pairwise_cons.mpr ⟨?_, ih hl'⟩
      intro a ha
      rcases mem_insertNew ha with rfl | ha
      · exact hlt
      · exact hb a ha
    · exact hl
    · rename_i hgt
      have hxb := OrientedCmp.lt_of_gt hgt
      refine List.pairwise_cons.mpr ⟨?_, hl⟩
      intro a ha
      rcases List.mem_cons.mp ha with rfl | ha
      · exact hxb
      · exact TransCmp.lt_trans hxb (hb a ha)

/-- What a search finds after an insertion: the old entry if there was one. -/
theorem findKey_insertNew {l : List α} (hl : Ordered cmp key l) (x : α) (k : κ) :
    findKey cmp key k (insertNew cmp key x l) =
      (findKey cmp key k l).or (if cmp (key x) k = .eq then some x else none) := by
  induction l with
  | nil => rw [insertNew, findKey_cons, findKey_nil, Option.none_or]
  | cons b l ih =>
    obtain ⟨hb, hl'⟩ := List.pairwise_cons.mp hl
    rw [insertNew]
    split
    · rename_i hlt
      rw [findKey_cons, findKey_cons, ih hl']
      split
      · rw [Option.some_or]
      · rfl
    · rename_i heq
      by_cases hk : cmp (key x) k = .eq
      · rw [findKey_cons, if_pos (TransCmp.eq_trans heq hk), Option.some_or]
      · rw [if_neg hk, Option.or_none]
    · rename_i hgt
      by_cases hk : cmp (key x) k = .eq
      · have hbk : cmp (key b) k = .gt := TransCmp.gt_of_gt_of_eq hgt hk
        rw [findKey_cons, if_pos hk, if_pos hk, findKey_eq_none_of_lt hl hbk, Option.none_or]
      · rw [findKey_cons, if_neg hk, if_neg hk, Option.or_none]

/-- A search after several insertions goes through the old entries and then through the new ones in order. -/
theorem findKey_foldl_insertNew {l : List α} (hl : Ordered cmp key l) (xs : List α) (k : κ) :
    findKey cmp key k (xs.foldl (fun l x => insertNew cmp key x l) l) = findKey cmp key k (l ++ xs) := by
  induction xs generalizing l with
  | nil => rw [List.foldl_nil, List.append_nil]
  | cons x xs ih =>
    rw [List.foldl_cons, ih (hl.insertNew x), findKey_append, findKey_append, findKey_insertNew hl, findKey_cons]
    split
    · rw [Option.or_assoc, Option.some_or]
    · rw [Option.or_none]

theorem insertNew_of_find {l : List α} (hl : Ordered cmp key l) {x a : α}
    (h : findKey cmp key (key x) l = some a) : insertNew cmp key x l = l := by
  apply (hl.insertNew x).ext hl
  intro k
  rw [findKey_insertNew hl]
  split
  · rename_i hk
    rw [← findKey_congr hk, h, Option.some_or]
  · rw [Option.or_none]

theorem Ordered.findKey_eq_some_iff {l : List α} (hl : Ordered cmp key l) {k : κ} {a : α} :
    findKey cmp key k l = some a ↔ a ∈ l ∧ cmp (key a) k = .eq := by
  constructor
  · intro h
    exact ⟨findKey_mem h, findKey_eq h⟩
  · rintro ⟨ha, hk⟩
    rw [← findKey_congr hk]
    exact hl.findKey_of_mem ha

omit [TransCmp cmp] in
/-- Where what holds of a key holds of all before it, the search for the first failure drops exactly what
holds. -/
theorem Ordered.dropWhile_eq_filter {l : List α} (hl : Ordered cmp key l) {p : α → Bool}
    (hp : ∀ a ∈ l, ∀ b ∈ l, cmp (key a) (key b) = .lt → p b = true → p a = true) :
    l.dropWhile p = l.filter fun a => !p a := by
  induction l with
  | nil => rfl
  | cons a l ih =>
    obtain ⟨ha, hl'⟩ := List.pairwise_cons.mp hl
    rw [List.dropWhile_cons]
    split
    · rename_i hpa
      rw [List.filter_cons_of_neg (by rw [hpa]; decide)]
      exact ih hl' fun b hb c hc => hp b (List.mem_cons_of_mem a hb) c (List.mem_cons_of_mem a hc)
    · rename_i hpa
      refine (List.filter_eq_self.mpr fun b hb => ?_).symm
      rw [Bool.not_eq_true']
      rcases List.mem_cons.mp hb with rfl | hmem
      · exact Bool.not_eq_true _ ▸ hpa
      · by_contra hpb
        exact hpa (hp a List.mem_cons_self b hb (ha b hmem) (Bool.not_eq_false _ ▸ hpb))

omit [TransCmp cmp] in
theorem Ordered.sublist {l l' : List α} (hl : Ordered cmp key l) (h : l'.Sublist l) : Ordered cmp key l' :=
  List.Pairwise.sublist h hl

end OrdList

end RiscvBinutils.Base
