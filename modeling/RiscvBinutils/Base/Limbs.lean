/-
Numbers of any size as lists of limbs, least significant limb first, and reading such a number digit by digit
into a list that only grows up to a limit.
-/
import Mathlib.Tactic

namespace RiscvBinutils.Base

section Limbs

variable {w : Nat}

/-- The number a list of limbs spells. -/
def fromLimbs : List (BitVec w) → Nat
  | [] => 0
  | d :: ds => d.toNat + 2 ^ w * fromLimbs ds

theorem fromLimbs_append (xs ys : List (BitVec w)) :
    fromLimbs (xs ++ ys) = fromLimbs xs + (2 ^ w) ^ xs.length * fromLimbs ys := by
  induction xs with
  | nil => simp [fromLimbs]
  | cons x xs ih =>
    rw [List.cons_append, fromLimbs, fromLimbs, ih, List.length_cons, Nat.pow_succ]
    ring

theorem fromLimbs_lt (ds : List (BitVec w)) : fromLimbs ds < (2 ^ w) ^ ds.length := by
  induction ds with
  | nil => simp [fromLimbs]
  | cons d ds ih =>
    have hd := d.isLt
    calc fromLimbs (d :: ds) < 2 ^ w * (fromLimbs ds + 1) := by
          rw [fromLimbs, Nat.mul_add, Nat.mul_one]
          omega
      _ ≤ 2 ^ w * (2 ^ w) ^ ds.length := Nat.mul_le_mul_left _ ih
      _ = (2 ^ w) ^ (d :: ds).length := by rw [List.length_cons, Nat.pow_succ, Nat.mul_comm]

/-- Multiply by `radix` and add, with the carry that is left over. -/
def mulAdd (radix : Nat) : Nat → List (BitVec w) → List (BitVec w) × Nat
  | carry, [] => ([], carry)
  | carry, d :: ds =>
    let work := carry + radix * d.toNat
    let r := mulAdd radix (work / 2 ^ w) ds
    (BitVec.ofNat w work :: r.1, r.2)

theorem mulAdd_length (radix carry : Nat) (ds : List (BitVec w)) : (mulAdd radix carry ds).1.length = ds.length := by
  induction ds generalizing carry with
  | nil => rfl
  | cons d ds ih => rw [mulAdd, List.length_cons, List.length_cons, ih]

theorem mulAdd_value (radix carry : Nat) (ds : List (BitVec w)) :
    fromLimbs (mulAdd radix carry ds).1 + (2 ^ w) ^ ds.length * (mulAdd radix carry ds).2 =
      radix * fromLimbs ds + carry := by
  induction ds generalizing carry with
  | nil => simp [mulAdd, fromLimbs]
  | cons d ds ih =>
    have hrest := ih ((carry + radix * d.toNat) / 2 ^ w)
    have hwork := Nat.mod_add_div (carry + radix * d.toNat) (2 ^ w)
    rw [mulAdd, fromLimbs, fromLimbs, BitVec.toNat_ofNat, List.length_cons, Nat.pow_succ]
    calc (carry + radix * d.toNat) % 2 ^ w + 2 ^ w * fromLimbs (mulAdd radix ((carry + radix * d.toNat) / 2 ^ w) ds).1 +
          (2 ^ w) ^ ds.length * 2 ^ w * (mulAdd radix ((carry + radix * d.toNat) / 2 ^ w) ds).2
        = (carry + radix * d.toNat) % 2 ^ w +
          2 ^ w * (fromLimbs (mulAdd radix ((carry + radix * d.toNat) / 2 ^ w) ds).1 +
            (2 ^ w) ^ ds.length * (mulAdd radix ((carry + radix * d.toNat) / 2 ^ w) ds).2) := by ring
      _ = (carry + radix * d.toNat) % 2 ^ w + 2 ^ w * ((carry + radix * d.toNat) / 2 ^ w) +
          2 ^ w * (radix * fromLimbs ds) := by rw [hrest]; ring
      _ = radix * (d.toNat + 2 ^ w * fromLimbs ds) + carry := by rw [hwork]; ring

/-- One more digit; the list grows by the carry while there is room. -/
def pushDigit (radix limit : Nat) (ds : List (BitVec w)) (digit : Nat) : List (BitVec w) :=
  let r := mulAdd radix digit ds
  if r.2 ≠ 0 ∧ ds.length < limit then r.1 ++ [BitVec.ofNat w r.2] else r.1

/-- The number that digits spell, most significant digit first. -/
def ofDigits (radix : Nat) (digits : List Nat) : Nat := digits.foldl (fun v d => radix * v + d) 0

/-- The limbs of the number that digits spell. -/
def readDigits (w radix limit : Nat) (digits : List Nat) : List (BitVec w) :=
  digits.foldl (pushDigit radix limit) [0]

theorem ofDigits_append (radix : Nat) (xs ys : List Nat) :
    ofDigits radix (xs ++ ys) = radix ^ ys.length * ofDigits radix xs + ofDigits radix ys := by
  induction ys using List.reverseRecOn with
  | nil => simp [ofDigits]
  | append_singleton ys y ih =>
    have hlast (zs : List Nat) : ofDigits radix (zs ++ [y]) = radix * ofDigits radix zs + y := by
      rw [ofDigits, List.foldl_append, ofDigits]
      rfl
    rw [← List.append_assoc, hlast, hlast, ih, List.length_append, List.length_singleton, Nat.pow_succ]
    ring

theorem ofDigits_lt {radix : Nat} {digits : List Nat} (h : ∀ d ∈ digits, d < radix) :
    ofDigits radix digits < radix ^ digits.length := by
  induction digits using List.reverseRecOn with
  | nil => exact Nat.one_pos
  | append_singleton digits d ih =>
    have hd : d < radix := h d (by simp)
    have hlt := ih fun d hd => h d (List.mem_append_left _ hd)
    have hlast : ofDigits radix [d] = d := by simp [ofDigits]
    rw [ofDigits_append, List.length_append, List.length_singleton, pow_one, Nat.pow_succ]
    calc radix * ofDigits radix digits + ofDigits radix [d] < radix * (ofDigits radix digits + 1) := by
          rw [Nat.mul_add, Nat.mul_one, hlast]
          omega
      _ ≤ radix * radix ^ digits.length := Nat.mul_le_mul_left _ hlt
      _ = radix ^ digits.length * radix := Nat.mul_comm _ _

/-- Zeros at the top are without value. -/
theorem fromLimbs_dropWhile (ds : List (BitVec w)) :
    fromLimbs (ds.dropWhile (· = 0)).reverse = fromLimbs ds.reverse := by
  induction ds with
  | nil => rfl
  | cons d ds ih =>
    by_cases hzero : d = 0
    · rw [List.dropWhile_cons_of_pos (by simpa using hzero), ih, List.reverse_cons, fromLimbs_append, hzero]
      simp [fromLimbs]
    · rw [List.dropWhile_cons_of_neg (by simpa using hzero)]

/-- What the limbs are after some digits of a number that there is room for. -/
structure Spells (limit v : Nat) (ds : List (BitVec w)) : Prop where
  value : fromLimbs ds = v
  pos : 0 < ds.length
  room : ds.length ≤ limit
  /-- There are no more limbs than needed. -/
  least : 1 < ds.length → (2 ^ w) ^ (ds.length - 1) ≤ v

theorem Spells.push {radix limit v digit : Nat} {ds : List (BitVec w)} (h : Spells limit v ds) (hradix : radix ≤ 2 ^ w)
    (hdigit : digit < radix) (hfits : radix * v + digit < (2 ^ w) ^ limit) :
    Spells limit (radix * v + digit) (pushDigit radix limit ds digit) := by
  have hvalue := mulAdd_value radix digit ds
  have hlen := mulAdd_length radix digit ds
  have hlt := fromLimbs_lt ds
  rw [h.value] at hvalue hlt
  have hmono : v ≤ radix * v + digit := le_add_right (Nat.le_mul_of_pos_left v (by omega))
  -- the carry is a digit again
  have hcarry : (mulAdd radix digit ds).2 < radix := by
    have hbound : (2 ^ w) ^ ds.length * (mulAdd radix digit ds).2 < (2 ^ w) ^ ds.length * radix := by
      calc (2 ^ w) ^ ds.length * (mulAdd radix digit ds).2 ≤ radix * v + digit := by omega
        _ < radix * (v + 1) := by rw [Nat.mul_add, Nat.mul_one]; omega
        _ ≤ radix * (2 ^ w) ^ ds.length := Nat.mul_le_mul_left _ hlt
        _ = (2 ^ w) ^ ds.length * radix := Nat.mul_comm _ _
    exact Nat.lt_of_mul_lt_mul_left hbound
  unfold pushDigit
  dsimp only
  by_cases hzero : (mulAdd radix digit ds).2 = 0
  · rw [if_neg fun hgrow => hgrow.1 hzero]
    rw [hzero, Nat.mul_zero, Nat.add_zero] at hvalue
    refine ⟨hvalue, hlen ▸ h.pos, hlen ▸ h.room, fun hmany => ?_⟩
    rw [hlen] at hmany ⊢
    exact (h.least hmany).trans hmono
  · have hlarge : (2 ^ w) ^ ds.length ≤ radix * v + digit := by
      have hmul : (2 ^ w) ^ ds.length * 1 ≤ (2 ^ w) ^ ds.length * (mulAdd radix digit ds).2 :=
        Nat.mul_le_mul_left _ (Nat.pos_of_ne_zero hzero)
      omega
    have hroom : ds.length < limit := by
      by_contra hfull
      have hpow := Nat.pow_le_pow_right (Nat.two_pow_pos w) (not_lt.mp hfull)
      omega
    rw [if_pos ⟨hzero, hroom⟩]
    refine ⟨?_, by simp, ?_, fun _ => ?_⟩
    · rw [fromLimbs_append, hlen, fromLimbs, fromLimbs, Nat.mul_zero, Nat.add_zero, BitVec.toNat_ofNat,
        Nat.mod_eq_of_lt (by omega)]
      exact hvalue
    · rw [List.length_append, hlen]
      exact hroom
    · rw [List.length_append, hlen]
      exact hlarge

/-- The limbs spell the number of the digits, if there is room for it. -/
theorem readDigits_spells {radix limit : Nat} (hradix : radix ≤ 2 ^ w) (hlimit : 0 < limit) {digits : List Nat}
    (hdigits : ∀ d ∈ digits, d < radix) (hfits : ofDigits radix digits < (2 ^ w) ^ limit) :
    Spells limit (ofDigits radix digits) (readDigits w radix limit digits) := by
  induction digits using List.reverseRecOn with
  | nil => exact ⟨by simp [readDigits, ofDigits, fromLimbs], Nat.one_pos, hlimit,
    fun h => absurd h (by simp [readDigits])⟩
  | append_singleton digits d ih =>
    have hd : d < radix := hdigits d (by simp)
    have hvalue : ofDigits radix (digits ++ [d]) = radix * ofDigits radix digits + d := by
      rw [ofDigits, List.foldl_append, ofDigits]
      rfl
    have hread : readDigits w radix limit (digits ++ [d]) =
      pushDigit radix limit (readDigits w radix limit digits) d := by
      rw [readDigits, List.foldl_append, readDigits]
      rfl
    rw [hvalue] at hfits ⊢
    rw [hread]
    have hle : ofDigits radix digits ≤ radix * ofDigits radix digits + d :=
      le_add_right (Nat.le_mul_of_pos_left _ (by omega))
    exact (ih (fun d hd => hdigits d (List.mem_append_left _ hd)) (by omega)).push hradix hd hfits

/-- A number that there is no room for takes all limbs. -/
theorem readDigits_full {radix limit : Nat} (hradix : radix ≤ 2 ^ w) (hlimit : 0 < limit) {digits : List Nat}
    (hdigits : ∀ d ∈ digits, d < radix) (hfull : (2 ^ w) ^ limit ≤ ofDigits radix digits) :
    (readDigits w radix limit digits).length = limit := by
  induction digits using List.reverseRecOn with
  | nil =>
    have hpos : 0 < (2 ^ w) ^ limit := by positivity
    exact absurd hfull (Nat.not_le.mpr hpos)
  | append_singleton digits d ih =>
    have hd : d < radix := hdigits d (by simp)
    have hinit : ∀ d ∈ digits, d < radix := fun d hd => hdigits d (List.mem_append_left _ hd)
    have hread : readDigits w radix limit (digits ++ [d]) =
      pushDigit radix limit (readDigits w radix limit digits) d := by
      rw [readDigits, List.foldl_append, readDigits]
      rfl
    have hlen : (readDigits w radix limit digits).length = limit := by
      rcases Nat.lt_or_ge (ofDigits radix digits) ((2 ^ w) ^ limit) with hlt | hge
      · have hspells := readDigits_spells hradix hlimit hinit hlt
        by_contra hne
        have hroom : (readDigits w radix limit digits).length + 1 ≤ limit := by
          have := hspells.room
          omega
        -- one more digit makes at most one more limb
        have hbound := fromLimbs_lt (readDigits w radix limit digits)
        rw [hspells.value] at hbound
        have hlast : ofDigits radix (digits ++ [d]) = radix * ofDigits radix digits + d := by
          rw [ofDigits, List.foldl_append, ofDigits]
          rfl
        have hsmall : ofDigits radix (digits ++ [d]) < (2 ^ w) ^ limit := by
          calc ofDigits radix (digits ++ [d]) < radix * (ofDigits radix digits + 1) := by
                rw [hlast, Nat.mul_add, Nat.mul_one]
                omega
            _ ≤ 2 ^ w * (2 ^ w) ^ (readDigits w radix limit digits).length := Nat.mul_le_mul hradix hbound
            _ = (2 ^ w) ^ ((readDigits w radix limit digits).length + 1) := by rw [Nat.pow_succ, Nat.mul_comm]
            _ ≤ (2 ^ w) ^ limit := Nat.pow_le_pow_right (Nat.two_pow_pos w) hroom
        omega
      · exact ih hinit hge
    rw [hread, pushDigit]
    rw [if_neg (by omega), mulAdd_length, hlen]

end Limbs

end RiscvBinutils.Base
