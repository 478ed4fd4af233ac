/-
Numbers stored in a byte buffer.
A store of `n` bytes is read back by a load of `n` bytes from the same place, and is not seen by a
load from bytes apart from it.
-/
import Mathlib.Tactic

namespace RiscvBinutils.Base

/-- The number a list of bytes spells, least significant byte first. -/
def fromBytes : List (BitVec 8) → Nat
  | [] => 0
  | b :: bs => b.toNat + 256 * fromBytes bs

/-- The low `n` bytes of a number, least significant byte first. -/
def toBytes : Nat → Nat → List (BitVec 8)
  | 0, _ => []
  | n + 1, v => BitVec.ofNat 8 v :: toBytes n (v / 256)

@[simp] theorem toBytes_length (n v : Nat) : (toBytes n v).length = n := by
  induction n generalizing v with
  | zero => rfl
  | succ n ih => rw [toBytes, List.length_cons, ih]

theorem fromBytes_toBytes (n v : Nat) : fromBytes (toBytes n v) = v % 256 ^ n := by
  induction n generalizing v with
  | zero => simp [toBytes, fromBytes, Nat.mod_one]
  | succ n ih =>
    have hpow : 256 ^ (n + 1) = 256 * 256 ^ n := by rw [Nat.pow_succ, Nat.mul_comm]
    rw [toBytes, fromBytes, ih, BitVec.toNat_ofNat, hpow, Nat.mod_mul]

theorem toBytes_inj (n v w : Nat) : toBytes n v = toBytes n w ↔ v % 256 ^ n = w % 256 ^ n := by
  constructor
  · intro h
    rw [← fromBytes_toBytes, h, fromBytes_toBytes]
  · induction n generalizing v w with
    | zero => exact fun _ => rfl
    | succ n ih =>
      intro h
      have hpow : 256 ^ (n + 1) = 256 * 256 ^ n := by rw [Nat.pow_succ, Nat.mul_comm]
      rw [hpow] at h
      have hlow : v % 256 = w % 256 := by
        rw [← Nat.mod_mul_right_mod v 256 (256 ^ n), h, Nat.mod_mul_right_mod]
      have hhigh : v / 256 % 256 ^ n = w / 256 % 256 ^ n := by
        rw [← Nat.mod_mul_right_div_self, h, Nat.mod_mul_right_div_self]
      rw [toBytes, toBytes, ih _ _ hhigh]
      congr 1
      apply BitVec.eq_of_toNat_eq
      simpa using hlow

theorem toBytes_add (m n v : Nat) : toBytes (m + n) v = toBytes m v ++ toBytes n (v / 256 ^ m) := by
  induction m generalizing v with
  | zero => simp [toBytes]
  | succ m ih =>
    rw [show m + 1 + n = m + n + 1 by omega, toBytes, toBytes, ih, List.cons_append, Nat.div_div_eq_div_mul,
      Nat.pow_succ, Nat.mul_comm (256 ^ m)]

theorem toBytes_split {m n a c : Nat} (ha : a < 256 ^ m) :
    toBytes (m + n) (a + 256 ^ m * c) = toBytes m a ++ toBytes n c := by
  have hlow : toBytes m (a + 256 ^ m * c) = toBytes m a := by
    rw [toBytes_inj, Nat.add_mul_mod_self_left]
  have hhigh : (a + 256 ^ m * c) / 256 ^ m = c := by
    rw [Nat.add_mul_div_left _ _ (Nat.pow_pos (by decide)), Nat.div_eq_of_lt ha, Nat.zero_add]
  rw [toBytes_add, hlow, hhigh]

theorem toBytes_fromBytes (bs : List (BitVec 8)) : toBytes bs.length (fromBytes bs) = bs := by
  induction bs with
  | nil => rfl
  | cons b bs ih =>
    have hb := b.isLt
    have hhead : BitVec.ofNat 8 (b.toNat + 256 * fromBytes bs) = b := by
      apply BitVec.eq_of_toNat_eq
      rw [BitVec.toNat_ofNat]
      omega
    have htail : (b.toNat + 256 * fromBytes bs) / 256 = fromBytes bs := by omega
    rw [List.length_cons, fromBytes, toBytes, hhead, htail, ih]

theorem fromBytes_lt (bs : List (BitVec 8)) : fromBytes bs < 256 ^ bs.length := by
  have hround := fromBytes_toBytes bs.length (fromBytes bs)
  rw [toBytes_fromBytes] at hround
  rw [hround]
  exact Nat.mod_lt _ (Nat.pow_pos (by decide))

/-- A slice of the buffer. -/
def slice (buf : List (BitVec 8)) (off n : Nat) : List (BitVec 8) :=
  (buf.drop off).take n

/-- Overwrite the buffer from `off` on. -/
def splice (buf : List (BitVec 8)) (off : Nat) (bs : List (BitVec 8)) : List (BitVec 8) :=
  buf.take off ++ bs ++ buf.drop (off + bs.length)

theorem splice_nil {buf : List (BitVec 8)} {off : Nat} : splice buf off [] = buf := by
  rw [splice, List.append_nil, List.length_nil, Nat.add_zero, List.take_append_drop]

theorem splice_length {buf bs : List (BitVec 8)} {off : Nat} (h : off + bs.length ≤ buf.length) :
    (splice buf off bs).length = buf.length := by
  simp only [splice, List.length_append, List.length_take, List.length_drop]
  omega

theorem splice_length_le {buf bs : List (BitVec 8)} {off : Nat} (h : off ≤ buf.length) :
    off + bs.length ≤ (splice buf off bs).length := by
  rw [splice, List.length_append, List.length_append, List.length_take_of_le h]
  omega

theorem drop_splice {buf : List (BitVec 8)} (bs : List (BitVec 8)) {off : Nat} (h : off ≤ buf.length) :
    (splice buf off bs).drop off = bs ++ buf.drop (off + bs.length) := by
  have hlen : (buf.take off).length = off := List.length_take_of_le h
  rw [splice, List.append_assoc, List.drop_append, hlen, Nat.sub_self, List.drop_zero,
    List.drop_eq_nil_of_le (by omega), List.nil_append]

theorem slice_splice_same {buf : List (BitVec 8)} (bs : List (BitVec 8)) {off : Nat} (h : off ≤ buf.length) :
    slice (splice buf off bs) off bs.length = bs := by
  rw [slice, drop_splice bs h, List.take_left]

theorem take_splice {buf : List (BitVec 8)} (bs : List (BitVec 8)) {off : Nat} (h : off ≤ buf.length) :
    (splice buf off bs).take off = buf.take off := by
  have hlen : (buf.take off).length = off := List.length_take_of_le h
  rw [splice, List.append_assoc, List.take_append, hlen, Nat.sub_self, List.take_zero, List.append_nil, List.take_take,
    Nat.min_self]

/-- What two stores one after the other have left. -/
theorem splice_parts {buf as bs : List (BitVec 8)} {off : Nat} (h : off ≤ buf.length) :
    (splice buf off (as ++ bs)).take (off + as.length) = buf.take off ++ as ∧
      slice (splice buf off (as ++ bs)) (off + as.length) bs.length = bs := by
  have hlen : (buf.take off ++ as).length = off + as.length := by
    rw [List.length_append, List.length_take_of_le h]
  have hsplit : splice buf off (as ++ bs) = buf.take off ++ as ++ (bs ++ buf.drop (off + (as ++ bs).length)) := by
    simp only [splice, List.append_assoc]
  rw [slice, hsplit, ← hlen]
  constructor
  · exact List.take_left ..
  · rw [List.drop_left]
    exact List.take_left ..

/-- A store over the front of an earlier one leaves the rest of it. -/
theorem splice_splice {buf as bs : List (BitVec 8)} {off : Nat} (h : off ≤ buf.length)
    (hle : bs.length ≤ as.length) :
    splice (splice buf off as) off bs = splice buf off (bs ++ as.drop bs.length) := by
  have hdrop : (splice buf off as).drop (off + bs.length) = as.drop bs.length ++ buf.drop (off + as.length) := by
    rw [← List.drop_drop, drop_splice as h, List.drop_append, Nat.sub_eq_zero_of_le hle, List.drop_zero]
  have hlen : bs.length + (as.length - bs.length) = as.length := by omega
  rw [splice, take_splice as h, hdrop, splice, List.length_append, List.length_drop, hlen]
  simp only [List.append_assoc]

/-- Two stores one after the other are one. -/
theorem splice_append {buf : List (BitVec 8)} (as bs : List (BitVec 8)) {off : Nat} (h : off ≤ buf.length) :
    splice (splice buf off as) (off + as.length) bs = splice buf off (as ++ bs) := by
  have hlen : (buf.take off ++ as).length = off + as.length := by
    rw [List.length_append, List.length_take_of_le h]
  have htake : (splice buf off as).take (off + as.length) = buf.take off ++ as := by
    rw [splice, ← hlen, List.take_left]
  have hdrop : (splice buf off as).drop (off + as.length + bs.length) = buf.drop (off + (as ++ bs).length) := by
    rw [Nat.add_assoc, ← List.drop_drop, drop_splice as h, List.drop_append,
      List.drop_eq_nil_of_le (by omega), List.nil_append, List.drop_drop, List.length_append]
    congr 1
    omega
  rw [splice, htake, hdrop, splice, List.append_assoc (buf.take off)]

/-- Bytes apart from the ones written keep their value. -/
theorem slice_splice_of_apart {buf bs : List (BitVec 8)} {off at' n : Nat} (h : off + bs.length ≤ buf.length)
    (hapart : at' + n ≤ off ∨ off + bs.length ≤ at') :
    slice (splice buf off bs) at' n = slice buf at' n := by
  have hlen : (buf.take off).length = off := List.length_take_of_le (by omega)
  have hlen' : (buf.take off ++ bs).length = off + bs.length := by rw [List.length_append, hlen]
  rcases hapart with h' | h'
  · rw [slice, splice, List.append_assoc, List.drop_append_of_le_length (by omega),
      List.take_append_of_le_length (by rw [List.length_drop, hlen]; omega), List.drop_take, List.take_take,
      Nat.min_eq_left (by omega), slice]
  · rw [slice, splice, List.drop_append, List.drop_eq_nil_of_le (by omega), List.nil_append, hlen',
      List.drop_drop, slice]
    congr 2
    omega

/-! ## Buffers that differ in one place only -/

/-- Two buffers of the same length with the same bytes apart from the `n` bytes from `lo` on. -/
structure SameOutside (lo n : Nat) (buf buf' : List (BitVec 8)) : Prop where
  length : buf'.length = buf.length
  slice : ∀ off m, off + m ≤ lo ∨ lo + n ≤ off → slice buf' off m = slice buf off m

namespace SameOutside

variable {lo n : Nat} {a b c : List (BitVec 8)}

theorem refl (lo n : Nat) (a : List (BitVec 8)) : SameOutside lo n a a := ⟨rfl, fun _ _ _ => rfl⟩

theorem trans (hab : SameOutside lo n a b) (hbc : SameOutside lo n b c) : SameOutside lo n a c := by
  refine ⟨hbc.length.trans hab.length, fun off m h => ?_⟩
  rw [hbc.slice off m h, hab.slice off m h]

/-- A change inside a smaller place. -/
theorem mono {lo' n' : Nat} (h : SameOutside lo' n' a b) (hlo : lo ≤ lo') (hn : lo' + n' ≤ lo + n) :
    SameOutside lo n a b :=
  ⟨h.length, fun off m hoff => h.slice off m (by omega)⟩

/-- A change of no byte. -/
theorem eq_of_zero (h : SameOutside lo 0 a b) : b = a := by
  have hlow := h.slice 0 lo (.inl (by omega))
  have hhigh := h.slice lo a.length (.inr (by omega))
  rw [Base.slice, Base.slice, List.drop_zero, List.drop_zero] at hlow
  rw [Base.slice, Base.slice, List.take_of_length_le (by rw [List.length_drop, h.length]; omega),
    List.take_of_length_le (by rw [List.length_drop]; omega)] at hhigh
  rw [← List.take_append_drop lo b, hlow, hhigh, List.take_append_drop]

theorem splice {bs : List (BitVec 8)} (h : lo + n ≤ a.length) (hn : bs.length ≤ n) :
    SameOutside lo n a (splice a lo bs) :=
  ⟨splice_length (by omega), fun off m hoff => slice_splice_of_apart (by omega) (by omega)⟩

end SameOutside

/-! ## Loads and stores of `n` bytes -/

/-- Load `n` bytes, little-endian. -/
def getl (n : Nat) (buf : List (BitVec 8)) (off : Nat) : BitVec 64 :=
  BitVec.ofNat 64 (fromBytes (slice buf off n))

/-- Load `n` bytes, big-endian. -/
def getb (n : Nat) (buf : List (BitVec 8)) (off : Nat) : BitVec 64 :=
  BitVec.ofNat 64 (fromBytes (slice buf off n).reverse)

/-- Store the low `n` bytes of `v`, little-endian. -/
def putl (n : Nat) (v : BitVec 64) (buf : List (BitVec 8)) (off : Nat) : List (BitVec 8) :=
  splice buf off (toBytes n v.toNat)

/-- Store the low `n` bytes of `v`, big-endian. -/
def putb (n : Nat) (v : BitVec 64) (buf : List (BitVec 8)) (off : Nat) : List (BitVec 8) :=
  splice buf off (toBytes n v.toNat).reverse

theorem getl_putl_same {n : Nat} (v : BitVec 64) {buf : List (BitVec 8)} {off : Nat} (h : off ≤ buf.length) :
    getl n (putl n v buf off) off = BitVec.ofNat 64 (v.toNat % 256 ^ n) := by
  have hs := slice_splice_same (toBytes n v.toNat) h
  rw [toBytes_length] at hs
  rw [getl, putl, hs, fromBytes_toBytes]

/-- The first bytes of a longer store. -/
theorem getl_putl_low {m k : Nat} (v : BitVec 64) {buf : List (BitVec 8)} {off : Nat} (h : off ≤ buf.length) :
    getl m (putl (m + k) v buf off) off = BitVec.ofNat 64 (v.toNat % 256 ^ m) := by
  have hs := slice_splice_same (toBytes (m + k) v.toNat) h
  have hcut : slice (splice buf off (toBytes (m + k) v.toNat)) off m =
      (slice (splice buf off (toBytes (m + k) v.toNat)) off (toBytes (m + k) v.toNat).length).take m := by
    rw [toBytes_length, slice, slice, List.take_take, Nat.min_eq_left (by omega)]
  have hlow : (toBytes (m + k) v.toNat).take m = toBytes m v.toNat := by
    rw [toBytes_add]
    exact List.take_left' (toBytes_length ..)
  rw [getl, putl, hcut, hs, hlow, fromBytes_toBytes]

/-- The buffer up to the end of a store. -/
theorem take_putl {n : Nat} (v : BitVec 64) {buf : List (BitVec 8)} {off : Nat} (h : off ≤ buf.length) :
    (putl n v buf off).take (off + n) = buf.take off ++ toBytes n v.toNat := by
  have hlen : (buf.take off ++ toBytes n v.toNat).length = off + n := by
    rw [List.length_append, List.length_take_of_le h, toBytes_length]
  rw [putl, splice, ← hlen, List.take_left]

/-- The bits stored are the bits loaded. -/
theorem getLsbD_getl_putl {n i : Nat} (v : BitVec 64) {buf : List (BitVec 8)} {off : Nat} (h : off ≤ buf.length)
    (hi : i < 8 * n) (hi' : i < 64) : (getl n (putl n v buf off) off).getLsbD i = v.getLsbD i := by
  have hpow : 256 ^ n = 2 ^ (8 * n) := by rw [Nat.pow_mul]
  rw [getl_putl_same v h, BitVec.getLsbD_ofNat, hpow, Nat.testBit_mod_two_pow, BitVec.getLsbD]
  simp [hi, hi']

theorem sameOutside_putl {n : Nat} (v : BitVec 64) {buf : List (BitVec 8)} {off : Nat} (h : off + n ≤ buf.length) :
    SameOutside off n buf (putl n v buf off) :=
  SameOutside.splice h (by simp)

theorem sameOutside_putb {n : Nat} (v : BitVec 64) {buf : List (BitVec 8)} {off : Nat} (h : off + n ≤ buf.length) :
    SameOutside off n buf (putb n v buf off) :=
  SameOutside.splice h (by simp)

theorem SameOutside.getl {lo n m off : Nat} {a b : List (BitVec 8)} (h : SameOutside lo n a b)
    (hapart : off + m ≤ lo ∨ lo + n ≤ off) : getl m b off = getl m a off := by
  rw [Base.getl, h.slice off m hapart, Base.getl]

end RiscvBinutils.Base
