/-
Byte buffers that are edited in place: overlapping moves, and deletion of ranges.
A buffer is longer than the part of it that is in use; only the used part is meaningful, so
every statement here is about `take` of the size.
-/
import Mathlib.Data.List.Basic
import Mathlib.Tactic

namespace RiscvBinutils.Base

variable {α : Type _}

/-- `memmove (buf + dst, buf + src, n)`: the source bytes are read before any is written. -/
def memmove (buf : List α) (dst src n : Nat) : List α :=
  buf.take dst ++ (buf.drop src).take n ++ buf.drop (dst + n)

/-- The buffer without the bytes `[addr, addr + count)`. -/
def excise (addr count : Nat) (xs : List α) : List α :=
  xs.take addr ++ xs.drop (addr + count)

theorem memmove_length {buf : List α} {dst src n : Nat} (hd : dst + n ≤ buf.length)
    (hs : src + n ≤ buf.length) : (memmove buf dst src n).length = buf.length := by
  simp only [memmove, List.length_append, List.length_take, List.length_drop]
  omega

/-- Everything below the destination, followed by the bytes moved there. -/
theorem memmove_take {buf : List α} {dst src n : Nat} (hd : dst ≤ buf.length)
    (hs : src + n ≤ buf.length) :
    (memmove buf dst src n).take (dst + n) = buf.take dst ++ (buf.drop src).take n := by
  have hlen : (buf.take dst ++ (buf.drop src).take n).length = dst + n := by
    simp only [List.length_append, List.length_take, List.length_drop]
    omega
  rw [memmove, List.take_append_of_le_length (by omega), ← hlen, List.take_length]

/-- Nothing below the destination is touched. -/
theorem memmove_take_below {buf : List α} {dst src n k : Nat} (hk : k ≤ dst) (hd : dst ≤ buf.length) :
    (memmove buf dst src n).take k = buf.take k := by
  rw [memmove, List.append_assoc, List.take_append_of_le_length (by rw [List.length_take]; omega), List.take_take,
    Nat.min_eq_left hk]

/-- Nothing beyond the bytes moved is touched. -/
theorem memmove_drop {buf : List α} {dst src n k : Nat} (hd : dst ≤ buf.length)
    (hs : src + n ≤ buf.length) (hk : dst + n ≤ k) :
    (memmove buf dst src n).drop k = buf.drop k := by
  have hlen : (buf.take dst ++ (buf.drop src).take n).length = dst + n := by
    simp only [List.length_append, List.length_take, List.length_drop]
    omega
  rw [memmove, List.drop_append, List.drop_eq_nil_of_le (by omega), List.nil_append, hlen,
    List.drop_drop]
  congr 1
  omega

/-- Deleting right after a prefix leaves the prefix alone. -/
theorem excise_append (xs ys : List α) (count : Nat) :
    excise xs.length count (xs ++ ys) = xs ++ ys.drop count := by
  rw [excise, List.take_left, List.drop_append, List.drop_eq_nil_of_le (by omega), List.nil_append,
    Nat.add_sub_cancel_left]

/-- The elements outside the range, where they are afterwards. -/
theorem excise_getElem? {addr count k : Nat} {xs : List α} (hr : addr + count ≤ xs.length)
    (hk : k < addr ∨ addr + count ≤ k) :
    (excise addr count xs)[if k < addr then k else k - count]? = xs[k]? := by
  have hlen : (xs.take addr).length = addr := List.length_take_of_le (by omega)
  rw [excise]
  split
  · rename_i hlow
    rw [List.getElem?_append_left (by omega), List.getElem?_take_of_lt hlow]
  · rename_i hhigh
    rw [List.getElem?_append_right (by omega), hlen, List.getElem?_drop]
    congr 1
    omega

/-- Moving the whole tail of the used part down over a range deletes the range. -/
theorem memmove_take_excise {buf : List α} {addr count size : Nat} (hr : addr + count ≤ size)
    (hs : size ≤ buf.length) :
    (memmove buf addr (addr + count) (size - addr - count)).take (size - count) =
      excise addr count (buf.take size) := by
  have hn : size - count = addr + (size - addr - count) := by omega
  rw [hn, memmove_take (by omega) (by omega), excise, List.take_take, List.drop_take,
    Nat.min_eq_left (by omega)]
  congr 2
  omega

/-! ## A gap that travels through the buffer

A sweep that deletes several ranges from left to right needs to move each byte only once: below
the gap the buffer is final, above the gap it is untouched. -/

/-- The used part of a buffer whose bytes `[gap, gap + width)` are garbage. -/
def closeGap (buf : List α) (gap width size : Nat) : List α :=
  buf.take gap ++ (buf.drop (gap + width)).take (size - gap)

theorem closeGap_zero {buf : List α} {gap size : Nat} (hg : gap ≤ size) :
    closeGap buf gap 0 size = buf.take size := by
  rw [closeGap, Nat.add_zero]
  conv_rhs => rw [← List.take_append_drop gap (buf.take size)]
  rw [List.take_take, Nat.min_eq_left hg, List.drop_take]

theorem closeGap_end (buf : List α) (width size : Nat) :
    closeGap buf size width size = buf.take size := by
  rw [closeGap, Nat.sub_self, List.take_zero, List.append_nil]

theorem closeGap_length {buf : List α} {gap width size : Nat} (hg : gap ≤ size)
    (hs : size + width ≤ buf.length) : (closeGap buf gap width size).length = size := by
  simp only [closeGap, List.length_append, List.length_take, List.length_drop]
  omega

/-- Deleting `count` bytes at the gap, and moving down only the bytes up to `next`, leaves a gap
of `width + count` bytes in front of `next`. -/
theorem closeGap_memmove {buf : List α} {gap width size count next : Nat}
    (hc : gap + count ≤ next) (hn : next ≤ size) (hs : size + width ≤ buf.length) :
    closeGap (memmove buf gap (gap + count + width) (next - gap - count)) (next - count)
        (width + count) (size - count) =
      excise gap count (closeGap buf gap width size) := by
  have hd : next - count = gap + (next - gap - count) := by omega
  have htake : (memmove buf gap (gap + count + width) (next - gap - count)).take (next - count) =
      buf.take gap ++ (buf.drop (gap + count + width)).take (next - gap - count) := by
    rw [hd]
    exact memmove_take (by omega) (by omega)
  have hdrop : (memmove buf gap (gap + count + width) (next - gap - count)).drop
      (next - count + (width + count)) = buf.drop (next + width) := by
    rw [memmove_drop (by omega) (by omega) (by omega)]
    congr 1
    omega
  have hlen : (buf.take gap).length = gap := List.length_take_of_le (by omega)
  have hcut : excise gap count (closeGap buf gap width size) =
      buf.take gap ++ ((buf.drop (gap + width)).take (size - gap)).drop count := by
    have := excise_append (buf.take gap) ((buf.drop (gap + width)).take (size - gap)) count
    rwa [hlen] at this
  rw [closeGap, htake, hdrop, hcut, List.append_assoc]
  congr 1
  -- both sides are the untouched bytes from `gap + count + width` on
  have hsrc : gap + width + count = gap + count + width := by omega
  have hsplit : size - gap - count = (next - gap - count) + (size - next) := by omega
  rw [List.drop_take, List.drop_drop, hsrc, hsplit, List.take_add, List.drop_drop]
  congr 2
  · omega
  · congr 1
    omega

end RiscvBinutils.Base
