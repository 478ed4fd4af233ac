/-
The buffer for a subset list that is written as an ISA string (bfd/elfxx-riscv.c, `riscv_estimate_arch_strlen` and
`riscv_arch_str`).  The estimate counts the digits of a version as an unsigned number, and the string has it with
its sign.
-/
import RiscvBinutils.Isa.Render
import RiscvBinutils.Isa.IntVersions

namespace RiscvBinutils.Isa

open Std RiscvBinutils.Base

/-! ## The code -/

/-- The loop of `riscv_estimate_digit`. -/
def digitLoop (num digit : Nat) : Nat := if num = 0 then digit else digitLoop (num / 10) (digit + 1)
termination_by num
decreasing_by omega

/-- `riscv_estimate_digit`, of a version that is converted to `unsigned`. -/
def riscvEstimateDigit (num : Int) : Nat :=
  let num := (num % 2 ^ 32).toNat
  if num = 0 then 1 else digitLoop num 0

/-- What `riscv_estimate_arch_strlen1` adds for a node: its name and versions, the version separator and an
underscore. -/
def estimateSubset (s : Subset) : Nat :=
  s.name.length + riscvEstimateDigit s.major + 1 + riscvEstimateDigit s.minor + 1

/-- `riscv_estimate_arch_strlen1`; the end of the list stands for rv32, rv64 or rv128 and the terminator. -/
def riscvEstimateArchStrlen1 : List Subset → Nat
  | [] => 6
  | s :: rest => riscvEstimateArchStrlen1 rest + estimateSubset s

/-- `riscv_estimate_arch_strlen`. -/
def riscvEstimateArchStrlen (l : SubsetList) : Nat := riscvEstimateArchStrlen1 l.nodes

/-- What `snprintf` leaves in a buffer of this size. -/
def snprintf (bufsz : Nat) (text : List Char) : List Char := text.take (bufsz - 1)

/-- The nodes behind one with this name for which `riscv_arch_str1` is called. -/
def printedTail (name : Name) : List Subset → List Subset
  | [] => []
  | next :: rest =>
    if (name = ['e'] ∧ next.name = ['i']) ∨ next.unknown then printedTail next.name rest
    else next :: printedTail next.name rest

/-- The nodes behind one with this name that are skipped. -/
def skippedTail (name : Name) : List Subset → List Subset
  | [] => []
  | next :: rest =>
    if (name = ['e'] ∧ next.name = ['i']) ∨ next.unknown then next :: skippedTail next.name rest
    else skippedTail next.name rest

/-- The nodes that are written. -/
def printed : List Subset → List Subset
  | [] => []
  | s :: rest => s :: printedTail s.name rest

/-- The nodes that are not written. -/
def skipped : List Subset → List Subset
  | [] => []
  | s :: rest => skippedTail s.name rest

/-- The first part of the string. -/
def archXlenText (xlen : Nat) : List Char := 'r' :: 'v' :: Nat.toDigits 10 xlen

/-- The string that `riscv_arch_str` leaves in its buffer: every part goes through another one of the same size. -/
def bufferedArchStr (xlen : Nat) (l : SubsetList) : List Char :=
  let bufsz := riscvEstimateArchStrlen l
  snprintf bufsz (archXlenText xlen) ++ (printed l.nodes).flatMap fun s => snprintf bufsz (archItem s)

/-- The string with its terminator fits in the buffer, and no part of it is cut off. -/
structure Fits (xlen : Nat) (l : SubsetList) : Prop where
  room : (bufferedArchStr xlen l).length + 1 ≤ riscvEstimateArchStrlen l
  start : (archXlenText xlen).length < riscvEstimateArchStrlen l
  whole : ∀ s ∈ printed l.nodes, (archItem s).length < riscvEstimateArchStrlen l

/-! ## Long and short versions -/

/-- The characters of a version beyond its estimate: a negative one is written as a sign and its absolute value,
and estimated with ten digits. -/
def overrun (v : Int) : Int := if v < 0 then ((Nat.toDigits 10 v.natAbs).length + 1 : Nat) - 10 else 0

/-- `riscv_arch_str1` writes no underline. -/
def Subset.isBase (s : Subset) : Bool := strcasecmp s.name ['i'] = .eq ∨ strcasecmp s.name ['e'] = .eq

/-- The versions of the nodes that are written. -/
def printedVersions (l : SubsetList) : List Int := (printed l.nodes).flatMap fun s => [s.major, s.minor]

/-- The characters of the estimate that the string does not need: one of the XLEN, the underline of a base, and all
of a node that is not written. -/
def spareChars (l : SubsetList) : Nat :=
  1 + (printed l.nodes).countP Subset.isBase + ((skipped l.nodes).map estimateSubset).sum

/-- The lists that the parser and `.option arch` make. -/
inductive Produced : SubsetList → Prop
  | empty : Produced {}
  | parse {st : ParseState} (h : Produced st.list) (rps : Rps) (arch : Option (List Char)) :
      Produced (riscvParseSubset rps arch st).2.list
  | update {st : ParseState} (h : Produced st.list) (rps : Rps) (str : List Char) :
      Produced (riscvUpdateSubset rps str st).2.list

theorem Produced.intVersions {l : SubsetList} (h : Produced l) : IntVersions l := by
  induction h with
  | empty => exact .nil
  | parse _ rps arch ih => exact ih.parse arch
  | update _ rps str ih => exact ih.update str

/-! ## Lengths -/

section Length

theorem digitLoop_eq (num digit : Nat) :
    digitLoop num digit = digit + if num = 0 then 0 else (Nat.toDigits 10 num).length := by
  induction num using Nat.strongRecOn generalizing digit with
  | _ num ih =>
    rw [digitLoop]
    by_cases hnum : num = 0
    · rw [if_pos hnum, if_pos hnum]
      rfl
    · rw [if_neg hnum, if_neg hnum, ih (num / 10) (by omega), Nat.toDigits_eq_if (by decide) (n := num)]
      by_cases hsmall : num < 10
      · rw [if_pos (by omega), if_pos hsmall]
        rfl
      · rw [if_neg (by omega), if_neg hsmall, List.length_append, List.length_singleton]
        omega

theorem riscvEstimateDigit_eq (v : Int) : riscvEstimateDigit v = (Nat.toDigits 10 (v % 2 ^ 32).toNat).length := by
  rw [riscvEstimateDigit]
  split
  · rename_i hzero
    rw [hzero]
    rfl
  · rename_i hne
    rw [digitLoop_eq, if_neg hne, Nat.zero_add]

/-- A version is written with its estimate and its overrun. -/
theorem decimal_length {v : Int} (h : IsInt v) : ((decimal v).length : Int) = riscvEstimateDigit v + overrun v := by
  obtain ⟨hlow, hhigh⟩ := h
  rw [intMax] at hhigh
  rw [riscvEstimateDigit_eq, decimal, overrun]
  by_cases hneg : v < 0
  · have hten : (Nat.toDigits 10 (v % 2 ^ 32).toNat).length = 10 := by
      have hle := (@Nat.length_toDigits_le_iff 10 (v % 2 ^ 32).toNat 10 (by decide) (by decide)).mpr (by omega)
      have hgt := (@Nat.length_toDigits_le_iff 10 (v % 2 ^ 32).toNat 9 (by decide) (by decide)).not.mpr (by omega)
      omega
    rw [if_pos hneg, if_pos hneg, hten, List.length_cons]
    omega
  · have hsame : (v % 2 ^ 32).toNat = v.toNat := by omega
    rw [if_neg hneg, if_neg hneg, hsame, Int.add_zero]

theorem archItem_length {s : Subset} (hmajor : IsInt s.major) (hminor : IsInt s.minor) :
    ((archItem s).length : Int) + (if s.isBase then 1 else 0) =
      estimateSubset s + (overrun s.major + overrun s.minor) := by
  have hM := decimal_length hmajor
  have hm := decimal_length hminor
  rw [archItem, estimateSubset, Subset.isBase]
  by_cases hbase : strcasecmp s.name ['i'] = .eq ∨ strcasecmp s.name ['e'] = .eq
  · rw [if_pos hbase, if_pos (decide_eq_true hbase), List.nil_append, List.length_append, List.length_append,
      List.length_cons]
    omega
  · rw [if_neg hbase, if_neg (by simpa using hbase), List.singleton_append, List.length_append, List.length_append,
      List.length_cons, List.length_cons]
    omega

theorem archItems_length {nodes : List Subset} (h : ∀ s ∈ nodes, IsInt s.major ∧ IsInt s.minor) :
    ((nodes.flatMap archItem).length : Int) + nodes.countP Subset.isBase =
      (nodes.map estimateSubset).sum + ((nodes.flatMap fun s => [s.major, s.minor]).map overrun).sum := by
  induction nodes with
  | nil => rfl
  | cons s nodes ih =>
    obtain ⟨hmajor, hminor⟩ := h s List.mem_cons_self
    have hs := archItem_length hmajor hminor
    have hrest := ih fun t ht => h t (List.mem_cons_of_mem s ht)
    simp only [List.flatMap_cons, List.length_append, List.countP_cons, List.map_cons, List.sum_cons, List.map_append,
      List.sum_append, List.map_nil, List.sum_nil]
    split at hs
    · rename_i hbase
      rw [if_pos hbase]
      omega
    · rename_i hbase
      rw [if_neg hbase]
      omega

theorem estimate_tail (name : Name) (rest : List Subset) : riscvEstimateArchStrlen1 rest =
    6 + ((printedTail name rest).map estimateSubset).sum + ((skippedTail name rest).map estimateSubset).sum := by
  induction rest generalizing name with
  | nil => rfl
  | cons next rest ih =>
    rw [riscvEstimateArchStrlen1, printedTail, skippedTail, ih next.name]
    split
    · rw [List.map_cons, List.sum_cons]
      omega
    · rw [List.map_cons, List.sum_cons]
      omega

/-- The estimate counts every node, written or not. -/
theorem estimate_eq (l : SubsetList) : riscvEstimateArchStrlen l =
    6 + ((printed l.nodes).map estimateSubset).sum + ((skipped l.nodes).map estimateSubset).sum := by
  rw [riscvEstimateArchStrlen]
  cases l.nodes with
  | nil => rfl
  | cons s rest =>
    rw [riscvEstimateArchStrlen1, printed, skipped, estimate_tail s.name rest, List.map_cons, List.sum_cons]
    omega

theorem printedTail_subset (name : Name) (rest : List Subset) : printedTail name rest ⊆ rest := by
  induction rest generalizing name with
  | nil => exact List.Subset.refl []
  | cons next rest ih =>
    rw [printedTail]
    split
    · exact List.subset_cons_of_subset next (ih next.name)
    · exact List.cons_subset_cons next (ih next.name)

theorem printed_subset (nodes : List Subset) : printed nodes ⊆ nodes := by
  cases nodes with
  | nil => exact List.Subset.refl []
  | cons s rest => exact List.cons_subset_cons s (printedTail_subset s.name rest)

theorem archTail_eq_printed (name : Name) (rest : List Subset) :
    archTail name rest = (printedTail name rest).flatMap archItem := by
  induction rest generalizing name with
  | nil => rfl
  | cons next rest ih =>
    rw [archTail, printedTail]
    split
    · exact ih next.name
    · rw [List.flatMap_cons, ih next.name]

/-- The string that nothing is cut off of. -/
theorem riscvArchStr_eq (xlen : Nat) (l : SubsetList) :
    riscvArchStr xlen l = archXlenText xlen ++ (printed l.nodes).flatMap archItem := by
  have htail : riscvArchStr1 l.nodes = (printed l.nodes).flatMap archItem := by
    cases l.nodes with
    | nil => rfl
    | cons s rest => rw [riscvArchStr1, printed, archTail_eq_printed, List.flatMap_cons]
  rw [riscvArchStr, htail]
  rfl

end Length

/-! ## The string fits in the buffer -/

section Fit

variable {xlen : Nat} {l : SubsetList}

theorem snprintf_of_lt {bufsz : Nat} {text : List Char} (h : text.length < bufsz) : snprintf bufsz text = text :=
  List.take_of_length_le (by omega)

/-- Where no part is cut off, the string in the buffer is the whole one. -/
theorem bufferedArchStr_eq (hstart : (archXlenText xlen).length < riscvEstimateArchStrlen l)
    (hwhole : ∀ s ∈ printed l.nodes, (archItem s).length < riscvEstimateArchStrlen l) :
    bufferedArchStr xlen l = riscvArchStr xlen l := by
  have hitems : (printed l.nodes).flatMap (fun s => snprintf (riscvEstimateArchStrlen l) (archItem s)) =
      (printed l.nodes).flatMap archItem := by
    rw [List.flatMap_def, List.flatMap_def, List.map_congr_left fun s hs => snprintf_of_lt (hwhole s hs)]
  rw [bufferedArchStr, riscvArchStr_eq, snprintf_of_lt hstart, hitems]

/-- It is enough that the whole string fits. -/
theorem fits_iff_room : Fits xlen l ↔ (riscvArchStr xlen l).length + 1 ≤ riscvEstimateArchStrlen l := by
  constructor
  · intro h
    rw [← bufferedArchStr_eq h.start h.whole]
    exact h.room
  · intro h
    have hlen := h
    rw [riscvArchStr_eq, List.length_append] at hlen
    have hstart : (archXlenText xlen).length < riscvEstimateArchStrlen l := by omega
    have hwhole : ∀ s ∈ printed l.nodes, (archItem s).length < riscvEstimateArchStrlen l := by
      intro s hs
      obtain ⟨before, after, hsplit⟩ := List.append_of_mem hs
      rw [hsplit, List.flatMap_append, List.flatMap_cons, List.length_append, List.length_append] at hlen
      omega
    refine ⟨?_, hstart, hwhole⟩
    rw [bufferedArchStr_eq hstart hwhole]
    exact h

theorem fits_iff_overrun (h : IntVersions l) (hxlen : xlen = 32 ∨ xlen = 64) :
    Fits xlen l ↔ ((printedVersions l).map overrun).sum ≤ spareChars l := by
  have hstart : (archXlenText xlen).length = 4 := by
    rcases hxlen with rfl | rfl <;> rfl
  have hitems := archItems_length fun s hs => h.versions s (printed_subset l.nodes hs)
  rw [fits_iff_room, riscvArchStr_eq, List.length_append, hstart, estimate_eq, printedVersions, spareChars]
  omega

end Fit

/-- The string fits exactly if the overrun of its versions is at most what the estimate has to spare. -/
theorem produced_fits_iff (l : SubsetList) (h : Produced l) (xlen : Nat) (hxlen : xlen = 32 ∨ xlen = 64) :
    Fits xlen l ↔ ((printedVersions l).map overrun).sum ≤ spareChars l :=
  fits_iff_overrun h.intVersions hxlen

/-- Versions that are too large for an `int` make the string two characters longer than the buffer. -/
theorem large_versions_overrun : ∃ l, Produced l ∧
    (riscvArchStr 64 l).length + 1 = riscvEstimateArchStrlen l + 2 ∧ ¬Fits 64 l := by
  refine ⟨(riscvParseSubset ⟨some .c20191213, true⟩
    (some "rv64i2p0_m2147483648p2147483648_c2147483648p2147483648".toList) {}).2.list, .parse .empty _ _, ?_⟩
  rw [fits_iff_room]
  decide +kernel

/-- The string of the default extensions. -/
theorem rv64g_fits : Fits 64 (riscvParseSubset ⟨some .c20191213, true⟩ (some "rv64g".toList) {}).2.list :=
  (produced_fits_iff _ (.parse .empty _ _) 64 (.inr rfl)).mpr (by decide +kernel)

end RiscvBinutils.Isa
