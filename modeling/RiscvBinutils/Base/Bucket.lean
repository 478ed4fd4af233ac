/-
A table that is searched from buckets: one pass over the table keeps for each key the index of the
first entry that has it, and a search for an entry begins at the bucket of the key that is looked
for. Nothing is lost by this as long as every entry that the search accepts has that key.
-/
import Mathlib.Data.List.Basic
import Mathlib.Logic.Function.Basic

namespace RiscvBinutils.Base

variable {α κ : Type} [DecidableEq κ]

/-- The pass over the table; `i` is the index of the first entry that is left. -/
def fillBuckets (key : α → κ) : List α → Nat → (κ → Option Nat) → κ → Option Nat
  | [], _, buckets => buckets
  | a :: as, i, buckets =>
    fillBuckets key as (i + 1)
      (if buckets (key a) = none then Function.update buckets (key a) (some i) else buckets)

/-- The index of the first entry that is accepted; `i` is the index of the first that is left. -/
def searchFrom (p : α → Bool) : List α → Nat → Option Nat
  | [], _ => none
  | a :: as, i => if p a then some i else searchFrom p as (i + 1)

section Search

variable {key : α → κ} {p : α → Bool}

theorem searchFrom_eq (as : List α) (i : Nat) : searchFrom p as i = (as.findIdx? p).map (· + i) := by
  induction as generalizing i with
  | nil => rfl
  | cons a as ih =>
    rw [searchFrom, List.findIdx?_cons, ih]
    cases p a with
    | true => simp
    | false =>
      rw [if_neg Bool.false_ne_true, if_neg Bool.false_ne_true, Option.map_map]
      congr 1
      funext n
      simp only [Function.comp_apply]
      omega

/-- A bucket that is filled stays; an empty one gets the first entry with its key. -/
theorem fillBuckets_eq (as : List α) (i : Nat) (buckets : κ → Option Nat) (k : κ) :
    fillBuckets key as i buckets k = (buckets k).or (searchFrom (fun a => key a = k) as i) := by
  induction as generalizing i buckets with
  | nil => rw [fillBuckets, searchFrom, Option.or_none]
  | cons a as ih =>
    rw [fillBuckets, ih, searchFrom]
    by_cases hk : key a = k
    · subst hk
      rw [if_pos (decide_eq_true rfl)]
      cases hb : buckets (key a) with
      | none => rw [if_pos rfl, Function.update_self, Option.some_or, Option.none_or]
      | some n => rw [if_neg (by simp), hb, Option.some_or, Option.some_or]
    · have hkept : (if buckets (key a) = none then Function.update buckets (key a) (some i) else buckets) k =
          buckets k := by
        split
        · exact Function.update_of_ne (Ne.symm hk) _ _
        · rfl
      rw [hkept, decide_eq_false hk, if_neg Bool.false_ne_true]

/-- The buckets of a table. -/
def buckets (key : α → κ) (as : List α) : κ → Option Nat := fillBuckets key as 0 fun _ => none

theorem buckets_eq (as : List α) (k : κ) : buckets key as k = as.findIdx? (fun a => key a = k) := by
  rw [buckets, fillBuckets_eq, Option.none_or, searchFrom_eq]
  simp

variable {as : List α} {k : κ}

/-- The bucket begins at or before every entry with its key. -/
theorem buckets_le {i : Nat} {a : α} (ha : as[i]? = some a) (hkey : key a = k) :
    ∃ start, buckets key as k = some start ∧ start ≤ i := by
  rw [buckets_eq]
  obtain ⟨hlt, hget⟩ := List.getElem?_eq_some_iff.mp ha
  cases hfound : as.findIdx? (fun a => key a = k) with
  | none =>
    rw [List.findIdx?_eq_none_iff] at hfound
    have := hfound a (List.mem_of_getElem? ha)
    simp [hkey] at this
  | some start =>
    refine ⟨start, rfl, ?_⟩
    obtain ⟨hstart, -, hbefore⟩ := List.findIdx?_eq_some_iff_getElem.mp hfound
    by_contra hgt
    have := hbefore i (by omega)
    rw [hget] at this
    simp [hkey] at this

/-- The search that begins at the bucket. -/
def searchBucket (key : α → κ) (p : α → Bool) (as : List α) (k : κ) : Option Nat :=
  (buckets key as k).bind fun start => searchFrom p (as.drop start) start

/-- Starting later finds the same if nothing is accepted before. -/
theorem searchFrom_drop {start : Nat} (hnone : ∀ i < start, ∀ a, as[i]? = some a → p a = false) :
    searchFrom p (as.drop start) start = as.findIdx? p := by
  induction start generalizing as with
  | zero => rw [List.drop_zero, searchFrom_eq]; simp
  | succ start ih =>
    cases as with
    | nil => rfl
    | cons a as =>
      have hrest := @ih as fun i hi b hb => hnone (i + 1) (by omega) b (by simpa using hb)
      rw [List.drop_succ_cons, searchFrom_eq, List.findIdx?_cons, hnone 0 (by omega) a rfl,
        if_neg Bool.false_ne_true, ← hrest, searchFrom_eq, Option.map_map]
      congr 1

/-- A search from the bucket finds what a search of the whole table finds. -/
theorem searchBucket_eq (hkey : ∀ a ∈ as, p a = true → key a = k) : searchBucket key p as k = as.findIdx? p := by
  unfold searchBucket
  cases hbucket : buckets key as k with
  | none =>
    symm
    rw [Option.bind_none, List.findIdx?_eq_none_iff]
    intro a ha
    by_contra haccept
    obtain ⟨i, hi⟩ := List.mem_iff_getElem?.mp ha
    obtain ⟨start, hstart, -⟩ := buckets_le hi (hkey a ha (by simpa using haccept))
    rw [hbucket] at hstart
    cases hstart
  | some start =>
    rw [Option.bind_some]
    apply searchFrom_drop
    intro i hi a ha
    by_contra haccept
    obtain ⟨start', hstart', hle⟩ := buckets_le ha (hkey a (List.mem_of_getElem? ha) (by simpa using haccept))
    rw [hbucket, Option.some.injEq] at hstart'
    omega

/-- A search that skips entries it would not accept. -/
theorem find?_dropWhile {q : α → Bool} (hq : ∀ a ∈ as, p a = true → q a = false) :
    (as.dropWhile q).find? p = as.find? p := by
  induction as with
  | nil => rfl
  | cons a as ih =>
    have hrest := ih fun b hb => hq b (List.mem_cons_of_mem _ hb)
    rw [List.dropWhile_cons]
    split
    · rename_i hqa
      have hpa : p a = false := by
        by_contra hp
        rw [hq a List.mem_cons_self (by simpa using hp)] at hqa
        cases hqa
      rw [hrest, List.find?_cons, hpa]
    · rfl

end Search

end RiscvBinutils.Base
