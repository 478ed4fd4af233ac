/-
Bit fields of a word, and immediates that are scattered over several fields.
An immediate format is a list of fields, each saying where some bits of the immediate stand in the
word.  Reading the fields back gives the immediate's own bits as soon as no two fields overlap;
whether a value survives the round trip is then a matter of its range.
-/
import Mathlib.Tactic

namespace RiscvBinutils.Base

variable {w : Nat}

/-- `n` bits of `x` from bit `s` on. -/
def bitsAt (x : BitVec w) (s n : Nat) : BitVec w :=
  (x >>> s) &&& ((1#w <<< n) - 1#w)

theorem toNat_shiftLeft_one {n : Nat} (hn : n < w) : (1#w <<< n).toNat = 2 ^ n := by
  have hpow : 2 ^ n < 2 ^ w := Nat.pow_lt_pow_right (by decide) hn
  rw [BitVec.toNat_shiftLeft, BitVec.toNat_ofNat, Nat.shiftLeft_eq, Nat.one_mod_two_pow (Nat.zero_lt_of_lt hn),
    one_mul, Nat.mod_eq_of_lt hpow]

theorem shiftLeft_one_mul_two (n : Nat) : (1#w <<< n) * 2 = 1#w <<< (n + 1) := by
  apply BitVec.eq_of_toNat_eq
  rw [BitVec.toNat_mul, BitVec.toNat_shiftLeft, BitVec.toNat_shiftLeft, Nat.shiftLeft_eq, Nat.shiftLeft_eq,
    pow_succ, ← mul_assoc]
  simp [Nat.mul_mod]

/-- Modulo a power of two the width of the words does not show. -/
theorem toNat_add_mod {n : Nat} (hn : n ≤ w) (x y : BitVec w) :
    (x + y).toNat % 2 ^ n = (x.toNat + y.toNat) % 2 ^ n := by
  rw [BitVec.toNat_add, Nat.mod_mod_of_dvd _ (Nat.pow_dvd_pow 2 hn)]

theorem toNat_mask {n : Nat} (hn : n < w) : ((1#w <<< n) - 1#w).toNat = 2 ^ n - 1 := by
  have hp : 2 ^ n < 2 ^ w := Nat.pow_lt_pow_right (by decide) hn
  have h1 : 1 ≤ 2 ^ n := Nat.one_le_two_pow
  have hone : 1 % 2 ^ w = 1 := Nat.mod_eq_of_lt (by omega)
  rw [BitVec.toNat_sub, toNat_shiftLeft_one hn, BitVec.toNat_ofNat, hone,
    show 2 ^ w - 1 + 2 ^ n = (2 ^ n - 1) + 2 ^ w by omega, Nat.add_mod_right, Nat.mod_eq_of_lt (by omega)]

theorem getLsbD_mask {n : Nat} (i : Nat) (hn : n < w) : ((1#w <<< n) - 1#w).getLsbD i = decide (i < n) := by
  rw [BitVec.getLsbD, toNat_mask hn, Nat.testBit_two_pow_sub_one]

theorem getLsbD_bitsAt (x : BitVec w) {s n : Nat} (i : Nat) (hn : n < w) :
    (bitsAt x s n).getLsbD i = (decide (i < n) && x.getLsbD (s + i)) := by
  rw [bitsAt, BitVec.getLsbD_and, getLsbD_mask i hn, BitVec.getLsbD_ushiftRight, Bool.and_comm]

/-- Clearing the low `n` bits rounds down. -/
theorem toNat_and_not_mask (x : BitVec w) {n : Nat} (hn : n < w) :
    (x &&& ~~~((1#w <<< n) - 1#w)).toNat = x.toNat / 2 ^ n * 2 ^ n := by
  have hbits : x &&& ~~~((1#w <<< n) - 1#w) = (x >>> n) <<< n := by
    apply BitVec.eq_of_getLsbD_eq
    intro i hi
    rw [BitVec.getLsbD_and, BitVec.getLsbD_not, getLsbD_mask i hn, BitVec.getLsbD_shiftLeft,
      BitVec.getLsbD_ushiftRight]
    by_cases h : i < n
    · simp [h]
    · rw [Nat.add_sub_cancel' (by omega)]
      simp [h, hi]
  have hle : x.toNat / 2 ^ n * 2 ^ n ≤ x.toNat := Nat.div_mul_le_self ..
  rw [hbits, BitVec.toNat_shiftLeft, BitVec.toNat_ushiftRight, Nat.shiftRight_eq_div_pow, Nat.shiftLeft_eq,
    Nat.mod_eq_of_lt (lt_of_le_of_lt hle x.isLt)]

/-- Negating one bit spreads it over the word. -/
theorem getLsbD_neg_bitsAt_one (x : BitVec w) (s i : Nat) (hw : 1 < w) :
    (-(bitsAt x s 1)).getLsbD i = (decide (i < w) && x.getLsbD s) := by
  have hbit : bitsAt x s 1 = if x.getLsbD s then 1#w else 0#w := by
    apply BitVec.eq_of_getLsbD_eq
    intro k hk
    rw [getLsbD_bitsAt x k hw]
    by_cases h : k = 0
    · subst h
      cases x.getLsbD s <;> simp [hk]
    · have : ¬ k < 1 := by omega
      split <;> simp [this, h, BitVec.getLsbD_one]
  rw [hbit]
  split
  · rename_i hs
    rw [hs, Bool.and_true, BitVec.neg_one_eq_allOnes, BitVec.getLsbD_allOnes]
  · rename_i hs
    simp [hs]

/-! ## Scattered immediates -/

/-- `width` bits of the immediate from bit `imm` on stand at bit `pos` of the word. -/
structure Field where
  imm : Nat
  width : Nat
  pos : Nat
  deriving DecidableEq, Repr

def scatter (fs : List Field) (x : BitVec w) : BitVec w :=
  fs.foldr (fun f acc => (bitsAt x f.imm f.width <<< f.pos) ||| acc) 0

def gather (fs : List Field) (x : BitVec w) : BitVec w :=
  fs.foldr (fun f acc => (bitsAt x f.pos f.width <<< f.imm) ||| acc) 0

/-- Every field fits the word, on both sides. -/
def Fits (w : Nat) (fs : List Field) : Prop :=
  ∀ f ∈ fs, f.width < w ∧ f.pos + f.width ≤ w ∧ f.imm + f.width ≤ w

/-- No two fields share a bit of the word. -/
def Apart (fs : List Field) : Prop :=
  fs.Pairwise fun f g => f.pos + f.width ≤ g.pos ∨ g.pos + g.width ≤ f.pos

instance (fs : List Field) : Decidable (Fits w fs) :=
  inferInstanceAs (Decidable (∀ f ∈ fs, _))

instance (fs : List Field) : Decidable (Apart fs) :=
  inferInstanceAs (Decidable (fs.Pairwise _))

theorem getLsbD_scatter {fs : List Field} (x : BitVec w) (i : Nat) (hf : Fits w fs) :
    (scatter fs x).getLsbD i =
      fs.any fun f => decide (f.pos ≤ i) && decide (i < f.pos + f.width) && x.getLsbD (f.imm + (i - f.pos)) := by
  induction fs with
  | nil => simp [scatter]
  | cons f fs ih =>
    obtain ⟨hw, hpos, _⟩ := hf f (List.mem_cons_self ..)
    have hrest : Fits w fs := fun g hg => hf g (List.mem_cons_of_mem _ hg)
    rw [scatter, List.foldr_cons, ← scatter, BitVec.getLsbD_or, ih hrest, List.any_cons,
      BitVec.getLsbD_shiftLeft, getLsbD_bitsAt x _ hw]
    congr 1
    by_cases h : f.pos ≤ i
    · by_cases h' : i < f.pos + f.width
      · have h1 : i < w := by omega
        have h2 : ¬ i < f.pos := by omega
        have h3 : i - f.pos < f.width := by omega
        simp [h, h', h1, h2, h3]
      · have h3 : ¬ i - f.pos < f.width := by omega
        simp [h', h3]
    · have h2 : i < f.pos := by omega
      simp [h2, h]

theorem getLsbD_gather {fs : List Field} (x : BitVec w) (i : Nat) (hf : Fits w fs) :
    (gather fs x).getLsbD i =
      fs.any fun f => decide (f.imm ≤ i) && decide (i < f.imm + f.width) && x.getLsbD (f.pos + (i - f.imm)) := by
  -- gathering is scattering with the two sides of every field exchanged
  have hswap : gather fs x = scatter (fs.map fun f => ⟨f.pos, f.width, f.imm⟩) x := by
    simp [gather, scatter, List.foldr_map]
  have hf' : Fits w (fs.map fun f => (⟨f.pos, f.width, f.imm⟩ : Field)) := by
    intro g hg
    obtain ⟨f, hfm, rfl⟩ := List.mem_map.mp hg
    obtain ⟨h1, h2, h3⟩ := hf f hfm
    exact ⟨h1, h3, h2⟩
  rw [hswap, getLsbD_scatter x i hf', List.any_map]
  rfl

/-- A scattered immediate has no bit outside its fields. -/
theorem getLsbD_scatter_outside {fs : List Field} (x : BitVec w) {i : Nat} (hf : Fits w fs)
    (hout : ∀ f ∈ fs, i < f.pos ∨ f.pos + f.width ≤ i) : (scatter fs x).getLsbD i = false := by
  rw [getLsbD_scatter x i hf, List.any_eq_false]
  intro f hmem hbit
  simp only [Bool.and_eq_true, decide_eq_true_eq] at hbit
  have := hout f hmem
  omega

/-- A scattered bit stands where its field says. -/
theorem getLsbD_scatter_field {fs : List Field} (x : BitVec w) (hf : Fits w fs) (ha : Apart fs) {f : Field}
    (hmem : f ∈ fs) {k : Nat} (hk : k < f.width) :
    (scatter fs x).getLsbD (f.pos + k) = x.getLsbD (f.imm + k) := by
  rw [getLsbD_scatter x _ hf, Bool.eq_iff_iff, List.any_eq_true]
  constructor
  · rintro ⟨g, hg, hgbit⟩
    simp only [Bool.and_eq_true, decide_eq_true_eq] at hgbit
    obtain ⟨⟨hlo, hhi⟩, hbit⟩ := hgbit
    -- the fields are apart, so the field holding this bit is `f`
    by_cases hfg : f = g
    · subst hfg
      rwa [Nat.add_sub_cancel_left] at hbit
    · have hsym : Std.Symm fun f g : Field => f.pos + f.width ≤ g.pos ∨ g.pos + g.width ≤ f.pos :=
        ⟨fun _ _ h => h.symm⟩
      rcases List.Pairwise.forall ha hmem hg hfg with h | h <;> omega
  · intro hbit
    refine ⟨f, hmem, ?_⟩
    simp only [Bool.and_eq_true, decide_eq_true_eq, Nat.add_sub_cancel_left]
    exact ⟨⟨by omega, by omega⟩, hbit⟩

/-- Gathering some fields of a scattered immediate gives the bits they cover. -/
theorem getLsbD_gather_scatter {es fs : List Field} (x : BitVec w) (i : Nat) (hf : Fits w fs) (ha : Apart fs)
    (hsub : es ⊆ fs) :
    (gather es (scatter fs x)).getLsbD i =
      ((es.any fun f => decide (f.imm ≤ i) && decide (i < f.imm + f.width)) && x.getLsbD i) := by
  rw [getLsbD_gather _ _ (fun f h => hf f (hsub h)), Bool.eq_iff_iff, Bool.and_eq_true, List.any_eq_true,
    List.any_eq_true]
  constructor
  · rintro ⟨f, hmem, hbit⟩
    simp only [Bool.and_eq_true, decide_eq_true_eq] at hbit
    obtain ⟨⟨hlo, hhi⟩, hbit⟩ := hbit
    rw [getLsbD_scatter_field x hf ha (hsub hmem) (by omega), Nat.add_sub_cancel' hlo] at hbit
    exact ⟨⟨f, hmem, by simp [hlo, hhi]⟩, hbit⟩
  · rintro ⟨⟨f, hmem, hrange⟩, hbit⟩
    simp only [Bool.and_eq_true, decide_eq_true_eq] at hrange
    obtain ⟨hlo, hhi⟩ := hrange
    refine ⟨f, hmem, ?_⟩
    rw [getLsbD_scatter_field x hf ha (hsub hmem) (by omega), Nat.add_sub_cancel' hlo]
    simp [hlo, hhi, hbit]

/-! ## Sign extension -/

/-- The low `n` bits of `x`, sign-extended. -/
def sext (n : Nat) (x : BitVec w) : BitVec w :=
  (x.setWidth n).signExtend w

theorem setWidth_signExtend {n m : Nat} (y : BitVec n) (h : m ≤ w) : (y.signExtend w).setWidth m = y.signExtend m := by
  apply BitVec.eq_of_getLsbD_eq
  intro i hi
  rw [BitVec.getLsbD_setWidth, BitVec.getLsbD_signExtend, BitVec.getLsbD_signExtend]
  simp [hi, show i < w by omega]

theorem signExtend_signExtend {n m v : Nat} (y : BitVec n) (h : n ≤ m) :
    (y.signExtend m).signExtend v = y.signExtend v := by
  rcases h.eq_or_lt with rfl | hlt
  · rw [BitVec.signExtend_eq]
  · apply BitVec.eq_of_getLsbD_eq
    intro i hi
    rw [BitVec.getLsbD_signExtend, BitVec.getLsbD_signExtend, BitVec.getLsbD_signExtend, BitVec.msb_signExtend]
    by_cases him : i < m
    · simp [hi, him]
    · simp [hi, him, show ¬ i < n by omega, show 0 < m by omega, show ¬ m ≤ n by omega]

theorem getLsbD_sext (x : BitVec w) {n i : Nat} (hn : 0 < n) (hi : i < w) :
    (sext n x).getLsbD i = x.getLsbD (min i (n - 1)) := by
  rw [sext, BitVec.getLsbD_signExtend, BitVec.getLsbD_setWidth, BitVec.msb_eq_getLsbD_last,
    BitVec.getLsbD_setWidth]
  have hlast : n - 1 < n := by omega
  by_cases h : i < n
  · rw [Nat.min_eq_left (by omega)]
    simp [hi, h]
  · rw [Nat.min_eq_right (by omega)]
    simp [hi, h, hlast]

/-- Sign extension keeps the low bits. -/
theorem toNat_sext_mod (x : BitVec w) {n : Nat} (hn : 0 < n) (hnw : n ≤ w) :
    (sext n x).toNat % 2 ^ n = x.toNat % 2 ^ n := by
  apply Nat.eq_of_testBit_eq
  intro i
  rw [Nat.testBit_mod_two_pow, Nat.testBit_mod_two_pow]
  by_cases hi : i < n
  · have hbit := getLsbD_sext x hn (show i < w by omega)
    rw [Nat.min_eq_left (by omega)] at hbit
    rw [BitVec.getLsbD, BitVec.getLsbD] at hbit
    rw [hbit]
  · simp [hi]

theorem toInt_sext (x : BitVec w) {n : Nat} (hnw : n ≤ w) : (sext n x).toInt = x.toInt.bmod (2 ^ n) := by
  rw [sext, BitVec.toInt_signExtend_of_le hnw, BitVec.toInt_setWidth, BitVec.toInt_eq_toNat_bmod,
    Int.bmod_bmod_of_dvd (Nat.pow_dvd_pow 2 hnw)]

/-- A value survives exactly when it is in the signed range of `n` bits. -/
theorem sext_eq_self_iff (x : BitVec w) {n : Nat} (hn : 0 < n) (hnw : n ≤ w) :
    sext n x = x ↔ -(2 ^ (n - 1) : Int) ≤ x.toInt ∧ x.toInt < 2 ^ (n - 1) := by
  have hpow : (2 ^ n : Nat) = 2 * 2 ^ (n - 1) := by
    conv_lhs => rw [show n = (n - 1) + 1 by omega, Nat.pow_succ]
    omega
  have hpos : 0 < 2 ^ (n - 1) := Nat.two_pow_pos _
  rw [← BitVec.toInt_inj, toInt_sext x hnw]
  constructor
  · intro h
    have hlo := Int.le_bmod (x := x.toInt) (m := 2 ^ n) (Nat.two_pow_pos _)
    have hhi := Int.bmod_lt (x := x.toInt) (m := 2 ^ n) (Nat.two_pow_pos _)
    rw [h, hpow] at hlo hhi
    push_cast at hlo hhi
    omega
  · rintro ⟨hlo, hhi⟩
    apply Int.bmod_eq_of_le
    · rw [hpow]; push_cast; omega
    · rw [hpow]; push_cast; omega

theorem xor_two_pow {m k : Nat} (h : m < 2 ^ (k + 1)) : m ^^^ 2 ^ k = if m < 2 ^ k then m + 2 ^ k else m - 2 ^ k := by
  have hpow : 2 ^ (k + 1) = 2 ^ k * 2 := Nat.pow_succ ..
  have hpos : 0 < 2 ^ k := Nat.two_pow_pos k
  have hlow : (m ^^^ 2 ^ k) % 2 ^ k = m % 2 ^ k := by
    rw [Nat.xor_mod_two_pow, Nat.mod_self, Nat.xor_zero]
  have hhigh : (m ^^^ 2 ^ k) / 2 ^ k = m / 2 ^ k ^^^ 1 := by
    rw [Nat.xor_div_two_pow, Nat.div_self hpos]
  have hsplit := Nat.div_add_mod (m ^^^ 2 ^ k) (2 ^ k)
  rw [hlow, hhigh] at hsplit
  split
  · rename_i hlt
    rw [Nat.div_eq_of_lt hlt, Nat.mod_eq_of_lt hlt] at hsplit
    simp only [Nat.zero_xor, Nat.mul_one] at hsplit
    omega
  · have hdiv : m / 2 ^ k = 1 := Nat.div_eq_of_lt_le (by omega) (by omega)
    have hmod : m % 2 ^ k = m - 2 ^ k := by
      rw [Nat.mod_eq_sub_mod (by omega), Nat.mod_eq_of_lt (by omega)]
    rw [hdiv, hmod] at hsplit
    simp only [Nat.xor_self, Nat.mul_zero, Nat.zero_add] at hsplit
    exact hsplit.symm

/-- Flipping the sign bit and subtracting it again sign-extends. -/
theorem xor_sub_eq_sext {n : Nat} (x y s : BitVec w) (hn : n < w) (hy : y.toNat = x.toNat % 2 ^ (n + 1))
    (hs : s.toNat = 2 ^ n) : (y ^^^ s) - s = sext (n + 1) x := by
  have hpow : 2 ^ (n + 1) = 2 ^ n * 2 := Nat.pow_succ ..
  have hle : 2 ^ (n + 1) ≤ 2 ^ w := Nat.pow_le_pow_right (by decide) hn
  have hlt : x.toNat % 2 ^ (n + 1) < 2 ^ (n + 1) := Nat.mod_lt _ (Nat.two_pow_pos _)
  apply BitVec.eq_of_toNat_eq
  rw [sext, BitVec.toNat_signExtend, BitVec.msb_eq_decide, BitVec.toNat_setWidth, BitVec.toNat_setWidth,
    BitVec.toNat_sub, BitVec.toNat_xor, hy, hs, xor_two_pow hlt, Nat.add_sub_cancel,
    Nat.mod_eq_of_lt (show x.toNat % 2 ^ (n + 1) < 2 ^ w by omega)]
  by_cases h : x.toNat % 2 ^ (n + 1) < 2 ^ n
  · rw [if_pos h, if_neg (by simpa using h),
      show 2 ^ w - 2 ^ n + (x.toNat % 2 ^ (n + 1) + 2 ^ n) = x.toNat % 2 ^ (n + 1) + 2 ^ w by omega,
      Nat.add_mod_right, Nat.mod_eq_of_lt (by omega)]
    rfl
  · rw [if_neg h, if_pos (by simpa using h), Nat.mod_eq_of_lt (by omega)]
    omega

/-- The low `a` bits are zero exactly when `2 ^ a` divides the value. -/
theorem low_bits_zero_iff (x : BitVec w) (a : Nat) :
    (∀ i < a, x.getLsbD i = false) ↔ x.toNat % 2 ^ a = 0 := by
  constructor
  · intro h
    apply Nat.eq_of_testBit_eq
    intro i
    rw [Nat.testBit_mod_two_pow, Nat.zero_testBit]
    by_cases hi : i < a
    · have := h i hi
      rw [BitVec.getLsbD] at this
      simp [this]
    · simp [hi]
  · intro h i hi
    have hbit := congrArg (fun y => y.testBit i) h
    simp only [Nat.testBit_mod_two_pow, Nat.zero_testBit, hi, decide_true, Bool.true_and] at hbit
    rw [BitVec.getLsbD, hbit]

/-- The immediate of a signed format: the gathered fields, extended from the sign bit at `signPos`
of the word to the bits from `signImm` on. -/
def gatherSigned (es : List Field) (signPos signImm : Nat) (x : BitVec w) : BitVec w :=
  gather es x ||| ((-(bitsAt x signPos 1)) <<< signImm)

/-- A format for the immediates of `n` bits whose low `a` bits are zero: the fields cover the bits
from `a` to `signImm`, and the sign bit stands at `signPos`. -/
structure SignedFormat (w : Nat) (fs es : List Field) (signPos signImm n a : Nat) : Prop where
  fits : Fits w fs
  apart : Apart fs
  sub : es ⊆ fs
  covers : ∀ i < w, (es.any fun f => decide (f.imm ≤ i) && decide (i < f.imm + f.width)) =
    (decide (a ≤ i) && decide (i < signImm))
  sign : ∃ f ∈ fs, f.pos ≤ signPos ∧ signPos < f.pos + f.width ∧ f.imm + (signPos - f.pos) = n - 1
  sign_imm : signImm = n - 1 ∨ signImm = n
  bits : 0 < n ∧ n ≤ w ∧ a < n ∧ 1 < w

instance (fs es : List Field) (signPos signImm n a : Nat) : Decidable (SignedFormat w fs es signPos signImm n a) :=
  decidable_of_iff
    (Fits w fs ∧ Apart fs ∧ es ⊆ fs ∧
      (∀ i < w, (es.any fun f => decide (f.imm ≤ i) && decide (i < f.imm + f.width)) =
        (decide (a ≤ i) && decide (i < signImm))) ∧
      (∃ f ∈ fs, f.pos ≤ signPos ∧ signPos < f.pos + f.width ∧ f.imm + (signPos - f.pos) = n - 1) ∧
      (signImm = n - 1 ∨ signImm = n) ∧ 0 < n ∧ n ≤ w ∧ a < n ∧ 1 < w)
    ⟨fun ⟨h1, h2, h3, h4, h5, h6, h7⟩ => ⟨h1, h2, h3, h4, h5, h6, h7⟩,
      fun ⟨h1, h2, h3, h4, h5, h6, h7⟩ => ⟨h1, h2, h3, h4, h5, h6, h7⟩⟩

/-- Two words have the same bits in the fields. -/
def AgreeOn (fs : List Field) (x y : BitVec w) : Prop :=
  ∀ f ∈ fs, ∀ i < f.width, x.getLsbD (f.pos + i) = y.getLsbD (f.pos + i)

instance (fs : List Field) (x y : BitVec w) : Decidable (AgreeOn fs x y) :=
  inferInstanceAs (Decidable (∀ f ∈ fs, _))

theorem AgreeOn.trans {fs : List Field} {x y z : BitVec w} (hxy : AgreeOn fs x y) (hyz : AgreeOn fs y z) :
    AgreeOn fs x z := by
  intro f hf i hi
  rw [hxy f hf i hi, hyz f hf i hi]

/-- Writing into empty fields. -/
theorem agreeOn_or {fs : List Field} {old : BitVec w} (h : AgreeOn fs old 0) (x : BitVec w) :
    AgreeOn fs (old ||| x) x := by
  intro f hf i hi
  rw [BitVec.getLsbD_or, h f hf i hi]
  simp

/-- Replacing the bits of a mask that covers the fields replaces the fields. -/
theorem agreeOn_insert {fs : List Field} {m : BitVec w} (hm : AgreeOn fs m (BitVec.allOnes w)) (hf : Fits w fs)
    (old x : BitVec w) : AgreeOn fs ((old &&& ~~~m) ||| (x &&& m)) x := by
  intro f hfs i hi
  obtain ⟨-, hpos, -⟩ := hf f hfs
  have hbit : m.getLsbD (f.pos + i) = true := by
    rw [hm f hfs i hi, BitVec.getLsbD_allOnes]
    exact decide_eq_true (by omega)
  simp [BitVec.getLsbD_or, BitVec.getLsbD_and, BitVec.getLsbD_not, hbit]

/-- A word whose gathered immediate is zero has no bit in the fields. -/
theorem agreeOn_zero_of_gather {fs : List Field} {x : BitVec w} {n : Nat} (hf : Fits w fs)
    (himm : ∀ f ∈ fs, f.imm + f.width ≤ n) (h : (gather fs x).setWidth n = 0) : AgreeOn fs x 0 := by
  intro f hmem i hi
  have hle := himm f hmem
  have hzero := congrArg (·.getLsbD (f.imm + i)) h
  simp only [BitVec.getLsbD_setWidth, show f.imm + i < n by omega, decide_true, Bool.true_and] at hzero
  rw [getLsbD_gather x _ hf] at hzero
  simp only [BitVec.ofNat_eq_ofNat, BitVec.getLsbD_zero, List.any_eq_false] at hzero
  have hbit := hzero f hmem
  simp only [Nat.le_add_right, decide_true, Nat.add_lt_add_iff_left, hi, Bool.and_self, Bool.true_and,
    Nat.add_sub_cancel_left, Bool.not_eq_true] at hbit
  rw [hbit]
  exact BitVec.getLsbD_zero.symm

theorem bitsAt_congr {x y : BitVec w} {s n : Nat} (hn : n < w)
    (h : ∀ i < n, x.getLsbD (s + i) = y.getLsbD (s + i)) : bitsAt x s n = bitsAt y s n := by
  apply BitVec.eq_of_getLsbD_eq
  intro i _
  rw [getLsbD_bitsAt x i hn, getLsbD_bitsAt y i hn]
  by_cases hi : i < n
  · rw [h i hi]
  · simp [hi]

theorem gather_congr {fs : List Field} {x y : BitVec w} (hf : Fits w fs) (h : AgreeOn fs x y) :
    gather fs x = gather fs y := by
  induction fs with
  | nil => rfl
  | cons f fs ih =>
    have hrest := ih (fun g hg => hf g (List.mem_cons_of_mem _ hg)) fun g hg => h g (List.mem_cons_of_mem _ hg)
    have hfirst := bitsAt_congr (hf f (List.mem_cons_self ..)).1 (h f (List.mem_cons_self ..))
    rw [gather, List.foldr_cons, ← gather, hrest, hfirst]
    rfl

namespace SignedFormat

variable {fs es : List Field} {signPos signImm n a : Nat}

theorem getLsbD_round (h : SignedFormat w fs es signPos signImm n a) (x : BitVec w) {i : Nat} (hi : i < w) :
    (gatherSigned es signPos signImm (scatter fs x)).getLsbD i =
      (decide (a ≤ i) && (sext n x).getLsbD i) := by
  obtain ⟨hn, hnw, han, hw⟩ := h.bits
  obtain ⟨f, hf, hlo, hhi, himm⟩ := h.sign
  have hsign : (scatter fs x).getLsbD signPos = x.getLsbD (n - 1) := by
    have := getLsbD_scatter_field x h.fits h.apart hf (k := signPos - f.pos) (by omega)
    rwa [Nat.add_sub_cancel' hlo, himm] at this
  rw [gatherSigned, BitVec.getLsbD_or, getLsbD_gather_scatter x i h.fits h.apart h.sub, h.covers i hi,
    BitVec.getLsbD_shiftLeft, getLsbD_neg_bitsAt_one _ _ _ hw, hsign, getLsbD_sext x hn hi]
  have hs := h.sign_imm
  by_cases hlt : i < signImm
  · rw [Nat.min_eq_left (by omega)]
    simp [hlt]
  · rw [Nat.min_eq_right (by omega)]
    have h1 : a ≤ i := by omega
    have h2 : i - signImm < w := by omega
    simp [hlt, hi, h1, h2]

/-- A format that keeps the low bits gives back the sign-extended value. -/
theorem round_eq_sext (h : SignedFormat w fs es signPos signImm n 0) (x : BitVec w) :
    gatherSigned es signPos signImm (scatter fs x) = sext n x := by
  apply BitVec.eq_of_getLsbD_eq
  intro i hi
  rw [h.getLsbD_round x hi]
  simp

/-- With the sign bit as a field of its own, the gathered fields are sign-extended. -/
theorem gatherSigned_eq_sext (h : SignedFormat w fs es signPos (n - 1) n a) (hfs : fs = es ++ [⟨n - 1, 1, signPos⟩])
    (x : BitVec w) : gatherSigned es signPos (n - 1) x = sext n (gather fs x) := by
  obtain ⟨hn, hnw, han, hw⟩ := h.bits
  have hfits : Fits w es := fun f hf => h.fits f (h.sub hf)
  -- the fields without the sign have no bit from the sign on
  have hhigh (i : Nat) (hi : i < w) (hle : n - 1 ≤ i) : (gather es x).getLsbD i = false := by
    have hcov := h.covers i hi
    rw [decide_eq_false (by omega : ¬ i < n - 1), Bool.and_false, List.any_eq_false] at hcov
    rw [getLsbD_gather x i hfits, List.any_eq_false]
    intro f hf hbit
    rw [Bool.and_eq_true] at hbit
    exact hcov f hf hbit.1
  have hgather (i : Nat) (hi : i < w) : (gather fs x).getLsbD i =
      ((gather es x).getLsbD i || (decide (i = n - 1) && x.getLsbD signPos)) := by
    rw [getLsbD_gather x i h.fits, getLsbD_gather x i hfits, hfs, List.any_append, List.any_cons, List.any_nil,
      Bool.or_false]
    congr 1
    by_cases heq : i = n - 1
    · simp [heq]
    · have hout : ¬ (n - 1 ≤ i ∧ i < n - 1 + 1) := by omega
      rw [← Bool.decide_and, decide_eq_false hout, decide_eq_false heq, Bool.false_and, Bool.false_and]
  apply BitVec.eq_of_getLsbD_eq
  intro i hi
  rw [gatherSigned, BitVec.getLsbD_or, BitVec.getLsbD_shiftLeft, getLsbD_neg_bitsAt_one _ _ _ hw, getLsbD_sext _ hn hi]
  by_cases hlt : i < n - 1
  · rw [Nat.min_eq_left (by omega), hgather i hi]
    simp [hlt, show i ≠ n - 1 by omega]
  · rw [Nat.min_eq_right (by omega), hgather _ (by omega), hhigh i hi (by omega), hhigh (n - 1) (by omega) le_rfl]
    simp [hlt, hi, show i - (n - 1) < w by omega]

/-- Only the bits of the fields are read. -/
theorem congr (h : SignedFormat w fs es signPos signImm n a) {x y : BitVec w} (hxy : AgreeOn fs x y) :
    gatherSigned es signPos signImm x = gatherSigned es signPos signImm y := by
  obtain ⟨f, hf, hlo, hhi, -⟩ := h.sign
  have hsign : bitsAt x signPos 1 = bitsAt y signPos 1 := by
    apply bitsAt_congr h.bits.2.2.2
    intro i hi
    have := hxy f hf (signPos - f.pos) (by omega)
    rwa [Nat.add_sub_cancel' hlo, show signPos = signPos + i by omega] at this
  have hfields : gather es x = gather es y :=
    gather_congr (fun g hg => h.fits g (h.sub hg)) fun g hg => hxy g (h.sub hg)
  rw [gatherSigned, gatherSigned, hfields, hsign]

/-- A value survives the round trip exactly when it is in range and aligned. -/
theorem round_eq_self_iff (h : SignedFormat w fs es signPos signImm n a) (x : BitVec w) :
    gatherSigned es signPos signImm (scatter fs x) = x ↔
      (-(2 ^ (n - 1) : Int) ≤ x.toInt ∧ x.toInt < 2 ^ (n - 1)) ∧ x.toNat % 2 ^ a = 0 := by
  obtain ⟨hn, hnw, han, hw⟩ := h.bits
  rw [← sext_eq_self_iff x hn hnw, ← low_bits_zero_iff]
  constructor
  · intro heq
    have hbit : ∀ i < w, x.getLsbD i = (decide (a ≤ i) && (sext n x).getLsbD i) := by
      intro i hi
      rw [← h.getLsbD_round x hi, heq]
    have hlow : ∀ i < a, x.getLsbD i = false := by
      intro i hi
      rw [hbit i (by omega)]
      simp [Nat.not_le.mpr hi]
    refine ⟨?_, hlow⟩
    apply BitVec.eq_of_getLsbD_eq
    intro i hi
    by_cases ha : a ≤ i
    · rw [hbit i hi]
      simp [ha]
    · rw [getLsbD_sext x hn hi, Nat.min_eq_left (by omega)]
  · rintro ⟨hsext, hlow⟩
    apply BitVec.eq_of_getLsbD_eq
    intro i hi
    rw [h.getLsbD_round x hi, hsext]
    by_cases ha : a ≤ i
    · simp [ha]
    · simp [ha, hlow i (by omega)]

end SignedFormat

/-! ## Formats that hold every bit once -/

/-- The fields hold the bits of the immediate from `a` to `n`, each of them once. -/
structure Holds (w : Nat) (fs : List Field) (n a : Nat) : Prop where
  fits : Fits w fs
  apart : Apart fs
  once : fs.Pairwise fun f g => f.imm + f.width ≤ g.imm ∨ g.imm + g.width ≤ f.imm
  covers : ∀ i < w, (fs.any fun f => decide (f.imm ≤ i) && decide (i < f.imm + f.width)) =
    (decide (a ≤ i) && decide (i < n))
  bits : n ≤ w

instance (fs : List Field) (n a : Nat) : Decidable (Holds w fs n a) :=
  decidable_of_iff
    (Fits w fs ∧ Apart fs ∧ (fs.Pairwise fun f g => f.imm + f.width ≤ g.imm ∨ g.imm + g.width ≤ f.imm) ∧
      (∀ i < w, (fs.any fun f => decide (f.imm ≤ i) && decide (i < f.imm + f.width)) =
        (decide (a ≤ i) && decide (i < n))) ∧ n ≤ w)
    ⟨fun ⟨h1, h2, h3, h4, h5⟩ => ⟨h1, h2, h3, h4, h5⟩, fun ⟨h1, h2, h3, h4, h5⟩ => ⟨h1, h2, h3, h4, h5⟩⟩

/-- A word with the immediate's bits in the fields is scattered back to itself. -/
theorem scatter_of_fields {fs : List Field} {x y : BitVec w} (hf : Fits w fs) (ha : Apart fs)
    (h : ∀ f ∈ fs, ∀ k < f.width, y.getLsbD (f.imm + k) = x.getLsbD (f.pos + k)) :
    scatter fs y = x &&& scatter fs (BitVec.allOnes w) := by
  apply BitVec.eq_of_getLsbD_eq
  intro i hi
  rw [BitVec.getLsbD_and]
  by_cases hin : ∃ f ∈ fs, f.pos ≤ i ∧ i < f.pos + f.width
  · obtain ⟨f, hmem, hlo, hhi⟩ := hin
    obtain ⟨k, rfl⟩ := Nat.exists_eq_add_of_le hlo
    have hk : k < f.width := by omega
    obtain ⟨-, -, himm⟩ := hf f hmem
    rw [getLsbD_scatter_field y hf ha hmem hk, getLsbD_scatter_field _ hf ha hmem hk, h f hmem k hk,
      BitVec.getLsbD_allOnes, decide_eq_true (by omega : f.imm + k < w), Bool.and_true]
  · have hout : ∀ f ∈ fs, i < f.pos ∨ f.pos + f.width ≤ i := by
      intro f hmem
      by_contra hnot
      exact hin ⟨f, hmem, by omega, by omega⟩
    rw [getLsbD_scatter_outside y hf hout, getLsbD_scatter_outside _ hf hout, Bool.and_false]

namespace Holds

variable {fs : List Field} {n a : Nat}

theorem range (h : Holds w fs n a) {f : Field} (hmem : f ∈ fs) {k : Nat} (hk : k < f.width) :
    a ≤ f.imm + k ∧ f.imm + k < n := by
  obtain ⟨-, -, himm⟩ := h.fits f hmem
  have hcov := h.covers (f.imm + k) (by omega)
  have hany : (fs.any fun g => decide (g.imm ≤ f.imm + k) && decide (f.imm + k < g.imm + g.width)) = true :=
    List.any_eq_true.mpr ⟨f, hmem, by simp [hk]⟩
  rw [hany, eq_comm, Bool.and_eq_true, decide_eq_true_iff, decide_eq_true_iff] at hcov
  exact hcov

/-- Only one field holds a bit. -/
theorem unique (h : Holds w fs n a) {f g : Field} (hf : f ∈ fs) (hg : g ∈ fs) {i : Nat}
    (hfi : f.imm ≤ i ∧ i < f.imm + f.width) (hgi : g.imm ≤ i ∧ i < g.imm + g.width) : f = g := by
  by_contra hne
  have hsym : Std.Symm fun f g : Field => f.imm + f.width ≤ g.imm ∨ g.imm + g.width ≤ f.imm :=
    ⟨fun _ _ h => h.symm⟩
  rcases List.Pairwise.forall h.once hf hg hne with hle | hle <;> omega

theorem getLsbD_gather_field (h : Holds w fs n a) {es : List Field} (hsub : es ⊆ fs) (x : BitVec w) {f : Field}
    (hmem : f ∈ es) {k : Nat} (hk : k < f.width) : (gather es x).getLsbD (f.imm + k) = x.getLsbD (f.pos + k) := by
  rw [getLsbD_gather x _ (fun g hg => h.fits g (hsub hg)), Bool.eq_iff_iff, List.any_eq_true]
  constructor
  · rintro ⟨g, hg, hbit⟩
    simp only [Bool.and_eq_true, decide_eq_true_eq] at hbit
    obtain ⟨hrange, hbit⟩ := hbit
    obtain rfl := h.unique (hsub hmem) (hsub hg) (by omega) hrange
    rwa [Nat.add_sub_cancel_left] at hbit
  · intro hbit
    refine ⟨f, hmem, ?_⟩
    simp only [Bool.and_eq_true, decide_eq_true_eq, Nat.add_sub_cancel_left]
    exact ⟨⟨by omega, by omega⟩, hbit⟩

/-- Reading an unsigned immediate and writing it again keeps its field, and nothing else. -/
theorem scatter_gather (h : Holds w fs n a) (x : BitVec w) :
    scatter fs (gather fs x) = x &&& scatter fs (BitVec.allOnes w) :=
  scatter_of_fields h.fits h.apart fun _ hf _ hk => h.getLsbD_gather_field (List.Subset.refl fs) x hf hk

/-- An unsigned immediate survives the round trip exactly when it is in range and aligned. -/
theorem gather_scatter_eq_self_iff (h : Holds w fs n a) (x : BitVec w) :
    gather fs (scatter fs x) = x ↔ x.toNat < 2 ^ n ∧ x.toNat % 2 ^ a = 0 := by
  have hbit (i : Nat) (hi : i < w) :
      (gather fs (scatter fs x)).getLsbD i = ((decide (a ≤ i) && decide (i < n)) && x.getLsbD i) := by
    rw [getLsbD_gather_scatter x i h.fits h.apart (List.Subset.refl fs), h.covers i hi]
  rw [← low_bits_zero_iff]
  constructor
  · intro heq
    rw [heq] at hbit
    refine ⟨Nat.lt_pow_two_of_testBit _ fun i hle => ?_, fun i hi => ?_⟩
    · by_cases hi : i < w
      · have hzero := hbit i hi
        rw [decide_eq_false (by omega : ¬ i < n), Bool.and_false, Bool.false_and] at hzero
        exact hzero
      · exact BitVec.getLsbD_of_ge x i (by omega)
    · by_cases hw : i < w
      · rw [hbit i hw, decide_eq_false (by omega : ¬ a ≤ i), Bool.false_and, Bool.false_and]
      · exact BitVec.getLsbD_of_ge x i (by omega)
  · rintro ⟨hlt, hlow⟩
    apply BitVec.eq_of_getLsbD_eq
    intro i hi
    rw [hbit i hi]
    by_cases ha : a ≤ i
    · by_cases hn : i < n
      · simp [ha, hn]
      · have hzero : x.getLsbD i = false :=
          Nat.testBit_lt_two_pow (lt_of_lt_of_le hlt (Nat.pow_le_pow_right (by decide) (by omega)))
        simp [hzero]
    · simp [hlow i (by omega)]

end Holds

/-- Reading a signed immediate and writing it again keeps its field, and nothing else. -/
theorem SignedFormat.scatter_gatherSigned {fs es : List Field} {signPos signImm n a : Nat}
    (h : SignedFormat w fs es signPos signImm n a) (hall : Holds w fs n a) (x : BitVec w) :
    scatter fs (gatherSigned es signPos signImm x) = x &&& scatter fs (BitVec.allOnes w) := by
  refine scatter_of_fields h.fits h.apart fun f hf k hk => ?_
  obtain ⟨hn, hnw, -, hw⟩ := h.bits
  obtain ⟨hlo, hhi⟩ := hall.range hf hk
  have hes : Fits w es := fun g hg => h.fits g (h.sub hg)
  rw [gatherSigned, BitVec.getLsbD_or, BitVec.getLsbD_shiftLeft, getLsbD_neg_bitsAt_one _ _ _ hw]
  have hcov := h.covers (f.imm + k) (by omega)
  by_cases hlt : f.imm + k < signImm
  · -- below the sign the field is one of those gathered
    rw [decide_eq_true hlo, decide_eq_true hlt, Bool.and_true, List.any_eq_true] at hcov
    obtain ⟨g, hg, hrange⟩ := hcov
    simp only [Bool.and_eq_true, decide_eq_true_eq] at hrange
    obtain rfl := hall.unique hf (h.sub hg) ⟨by omega, by omega⟩ hrange
    rw [hall.getLsbD_gather_field h.sub x hg hk]
    simp [hlt]
  · -- the sign
    obtain ⟨g, hg, hglo, hghi, hgimm⟩ := h.sign
    have hsign := h.sign_imm
    have hlast : f.imm + k = n - 1 := by omega
    obtain rfl := hall.unique hf hg ⟨by omega, by omega⟩ (i := n - 1) ⟨by omega, by omega⟩
    have hpos : f.pos + k = signPos := by omega
    have hgather : (gather es x).getLsbD (f.imm + k) = false := by
      rw [decide_eq_false hlt, Bool.and_false, List.any_eq_false] at hcov
      rw [getLsbD_gather x _ hes, List.any_eq_false]
      intro e he hbit
      rw [Bool.and_eq_true] at hbit
      exact hcov e he hbit.1
    rw [hgather, hpos]
    simp [hlt, show f.imm + k < w by omega, show f.imm + k - signImm < w by omega]

end RiscvBinutils.Base
