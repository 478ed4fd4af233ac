/-
Searching a list for the last element with a property: a loop that goes forwards and remembers
what it met last, and one that goes backwards and stops at the first.
-/
import Mathlib.Data.List.Basic

namespace RiscvBinutils.Base

variable {α : Type}

/-! ## The last index -/

/-- `n` is the last index with the property; there is none if it is `none`. -/
def LastIndex (p : α → Prop) (xs : List α) : Option Nat → Prop
  | none => ∀ (m : Nat) (x : α), xs[m]? = some x → ¬ p x
  | some n => (∃ x, xs[n]? = some x ∧ p x) ∧ ∀ (m : Nat) (x : α), n < m → xs[m]? = some x → ¬ p x

section LastIndex

variable {p : α → Prop} {xs : List α}

/-- The last element that a filter keeps. -/
theorem LastIndex.getLast?_filter [DecidablePred p] : ∀ {xs : List α} {r : Option Nat}, LastIndex p xs r →
    (xs.filter fun x => decide (p x)).getLast? = r.bind (xs[·]?)
  | [], none, _ => rfl
  | [], some n, h => by
    obtain ⟨⟨x, hx, -⟩, -⟩ := h
    cases hx
  | y :: ys, none, h => by
    have hnone : (y :: ys).filter (fun x => decide (p x)) = [] := by
      rw [List.filter_eq_nil_iff]
      intro x hx
      obtain ⟨m, hm⟩ := List.mem_iff_getElem?.mp hx
      simpa using h m x hm
    rw [hnone]
    rfl
  | y :: ys, some 0, h => by
    obtain ⟨⟨x, hx, hp⟩, hafter⟩ := h
    obtain rfl : y = x := by simpa using hx
    have hnone : ys.filter (fun x => decide (p x)) = [] := by
      rw [List.filter_eq_nil_iff]
      intro x hx
      obtain ⟨m, hm⟩ := List.mem_iff_getElem?.mp hx
      simpa using hafter (m + 1) x (Nat.succ_pos m) (by simpa using hm)
    rw [List.filter_cons_of_pos (by simpa using hp), hnone]
    rfl
  | y :: ys, some (n + 1), h => by
    obtain ⟨⟨x, hx, hp⟩, hafter⟩ := h
    have hrest : LastIndex p ys (some n) :=
      ⟨⟨x, by simpa using hx, hp⟩, fun m z hlt hz => hafter (m + 1) z (Nat.succ_lt_succ hlt) (by simpa using hz)⟩
    have hlast := hrest.getLast?_filter
    rw [show (some n).bind (ys[·]?) = ys[n]? from rfl, show ys[n]? = some x by simpa using hx] at hlast
    have hsome : (some (n + 1)).bind ((y :: ys)[·]?) = some x := hx
    rw [hsome, List.filter_cons]
    split
    · rw [List.getLast?_cons, hlast]
      rfl
    · exact hlast

end LastIndex

/-! ## The loops -/

/-- Forwards, until `stop`; what was hit last is remembered. -/
def scanForward (stop hit : α → Bool) : List α → Nat → Option Nat → Option Nat
  | [], _, found => found
  | x :: xs, n, found => if stop x then found else scanForward stop hit xs (n + 1) (if hit x then some n else found)

/-- Backwards from behind the first `n` elements, until `stop` or a hit. -/
def scanBackward (stop hit : α → Bool) (xs : List α) : Nat → Option Nat
  | 0 => none
  | n + 1 =>
    match xs[n]? with
    | none => none
    | some x => if stop x then none else if hit x then some n else scanBackward stop hit xs n

section Loops

variable {stop hit : α → Bool} {xs : List α}

/-- What `stop` holds of, it holds of everything behind. -/
def StopsForGood (stop : α → Bool) (xs : List α) : Prop :=
  ∀ (m m' : Nat) (x y : α), m ≤ m' → xs[m]? = some x → xs[m']? = some y → stop x = true → stop y = true

theorem scanForward_cases (hstop : StopsForGood stop xs) :
    ∀ {ys : List α} {n : Nat} {found : Option Nat}, ys = xs.drop n →
      (∃ m, scanForward stop hit ys n found = some m ∧ n ≤ m ∧
        LastIndex (fun x => hit x = true ∧ stop x = false) xs (some m)) ∨
      (scanForward stop hit ys n found = found ∧
        ∀ (m : Nat) (x : α), n ≤ m → xs[m]? = some x → ¬ (hit x = true ∧ stop x = false))
  | [], n, found, hys => by
    refine .inr ⟨rfl, ?_⟩
    intro m x hle hx
    have hlen : xs.length ≤ n := List.drop_eq_nil_iff.mp hys.symm
    have hlt := (List.getElem?_eq_some_iff.mp hx).1
    omega
  | y :: ys, n, found, hys => by
    have hy : xs[n]? = some y := by
      rw [← Nat.add_zero n, ← List.getElem?_drop, ← hys]
      rfl
    have hrest : ys = xs.drop (n + 1) := by
      rw [← List.tail_drop, ← hys]
      rfl
    rw [scanForward]
    by_cases hs : stop y = true
    · refine .inr ⟨by rw [if_pos hs], ?_⟩
      rintro m x hle hx ⟨-, hns⟩
      rw [hstop n m y x hle hy hx hs] at hns
      cases hns
    · rw [if_neg hs]
      rcases @scanForward_cases hstop ys (n + 1) (if hit y then some n else found) hrest with
        ⟨m, hm, hle, hlast⟩ | ⟨hsame, hnone⟩
      · exact .inl ⟨m, hm, by omega, hlast⟩
      · by_cases hh : hit y = true
        · refine .inl ⟨n, by rw [hsame, if_pos hh], Nat.le_refl n, ⟨y, hy, hh, by simpa using hs⟩, ?_⟩
          intro m x hlt hx
          exact hnone m x hlt hx
        · refine .inr ⟨by rw [hsame, if_neg hh], ?_⟩
          intro m x hle hx
          rcases Nat.eq_or_lt_of_le hle with rfl | hlt
          · rintro ⟨hx', -⟩
            rw [Option.some.inj (hy.symm.trans hx)] at hh
            exact hh hx'
          · exact hnone m x hlt hx

/-- What stops the way back, stops everything before it. -/
def StopsBack (stop hit : α → Bool) (xs : List α) : Prop :=
  ∀ (m m' : Nat) (x y : α), m ≤ m' → xs[m]? = some x → xs[m']? = some y → stop y = true → hit x = false

theorem scanBackward_cases (hstop : StopsBack stop hit xs) :
    ∀ {n : Nat}, n ≤ xs.length →
      (∃ m x, scanBackward stop hit xs n = some m ∧ m < n ∧ xs[m]? = some x ∧ hit x = true ∧
        ∀ (m' : Nat) (x : α), m < m' → m' < n → xs[m']? = some x → hit x = false) ∨
      (scanBackward stop hit xs n = none ∧ ∀ (m : Nat) (x : α), m < n → xs[m]? = some x → hit x = false)
  | 0, _ => .inr ⟨rfl, fun m x h => absurd h (Nat.not_lt_zero m)⟩
  | n + 1, hn => by
    have hy : xs[n]? = some xs[n] := List.getElem?_eq_getElem hn
    rw [scanBackward, hy]
    dsimp only
    by_cases hs : stop xs[n] = true
    · refine .inr ⟨by rw [if_pos hs], ?_⟩
      intro m x hlt hx
      exact hstop m n x _ (Nat.lt_succ_iff.mp hlt) hx hy hs
    · rw [if_neg hs]
      by_cases hh : hit xs[n] = true
      · refine .inl ⟨n, _, by rw [if_pos hh], Nat.lt_succ_self n, hy, hh, ?_⟩
        intro m' x hlt hlt'
        omega
      · rw [if_neg hh]
        have hlast (m : Nat) (x : α) (hle : n ≤ m) (hlt : m < n + 1) (hx : xs[m]? = some x) : hit x = false := by
          obtain rfl : m = n := by omega
          rw [Option.some.inj (hx.symm.trans hy)]
          simpa using hh
        rcases @scanBackward_cases hstop n (by omega) with ⟨m, x, hm, hlt, hx, hhit, hnone⟩ | ⟨hnone, hall⟩
        · refine .inl ⟨m, x, hm, by omega, hx, hhit, ?_⟩
          intro m' x' hlt' hlt'' hx'
          by_cases hmn : m' < n
          · exact hnone m' x' hlt' hmn hx'
          · exact hlast m' x' (by omega) hlt'' hx'
        · refine .inr ⟨hnone, ?_⟩
          intro m' x' hlt' hx'
          by_cases hmn : m' < n
          · exact hall m' x' hmn hx'
          · exact hlast m' x' (by omega) hlt' hx'

/-- Forwards from `start`, and if nothing was hit, backwards from behind `back`: together the loops meet the last hit
that is not behind the stop, if everything before `back` is not. -/
theorem scan_lastIndex {stopBack : α → Bool} {start back : Nat} (hforward : StopsForGood stop xs)
    (hback : StopsBack stopBack hit xs) (hle : start ≤ back) (hlen : back ≤ xs.length)
    (hbefore : ∀ (m : Nat) (x : α), m < back → xs[m]? = some x → stop x = false) :
    LastIndex (fun x => hit x = true ∧ stop x = false) xs
      ((scanForward stop hit (xs.drop start) start none).or (scanBackward stopBack hit xs back)) := by
  rcases @scanForward_cases α stop hit xs hforward (xs.drop start) start none rfl with
    ⟨m, hm, -, hlast⟩ | ⟨hnone, hmiss⟩
  · rw [hm]
    exact hlast
  · rw [hnone, Option.none_or]
    rcases scanBackward_cases hback hlen with ⟨m, x, hm, hlt, hx, hhit, hmiss'⟩ | ⟨hnone', hmiss'⟩
    · rw [hm]
      refine ⟨⟨x, hx, hhit, hbefore m x hlt hx⟩, ?_⟩
      rintro m' x' hlt' hx' ⟨hhit', hstop'⟩
      by_cases hm' : m' < back
      · rw [hmiss' m' x' hlt' hm' hx'] at hhit'
        cases hhit'
      · exact hmiss m' x' (by omega) hx' ⟨hhit', hstop'⟩
    · rw [hnone']
      rintro m' x' hx' ⟨hhit', hstop'⟩
      by_cases hm' : m' < back
      · rw [hmiss' m' x' hm' hx'] at hhit'
        cases hhit'
      · exact hmiss m' x' (by omega) hx' ⟨hhit', hstop'⟩

end Loops

end RiscvBinutils.Base
