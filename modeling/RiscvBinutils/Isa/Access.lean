/-
Where `riscv_compare_subsets` (bfd/elfxx-riscv.c) reads the table `riscv_ext_order`: at the first characters of
both names and, if both are z extensions, at the second ones.  An access is given by its character `c`; it is
to `riscv_ext_order[c - 'a']`, and the table has 26 entries.
-/
import RiscvBinutils.Isa.Invariant

namespace RiscvBinutils.Isa

open Std RiscvBinutils.Base

/-- `0 <= c - 'a' < 26`. -/
def InTable (c : Char) : Prop := 'a'.toNat ≤ c.toNat ∧ c.toNat - 'a'.toNat < 26

instance (c : Char) : Decidable (InTable c) := inferInstanceAs (Decidable (_ ∧ _))

/-- All accesses are to entries of the table. -/
def AllInTable (accesses : List Char) : Prop := ∀ c ∈ accesses, InTable c

instance (accesses : List Char) : Decidable (AllInTable accesses) :=
  inferInstanceAs (Decidable (∀ c ∈ accesses, InTable c))

/-- `*p`, which is the terminator at the end of a name. -/
def charAt (p : Name) : Char := p.headD '\x00'

/-- The accesses of `riscv_compare_subsets`. -/
def compareAccesses (subset1 subset2 : Name) : List Char :=
  [charAt subset1, charAt subset2] ++
    if 0 < headOrder subset1 ∧ 0 < headOrder subset2 then []
    else if prefixedOrder subset1 = prefixedOrder subset2 ∧ riscvGetPrefixClass subset1 = .z then
      [charAt (subset1.drop 1), charAt (subset2.drop 1)]
    else []

section Names

variable {a b : Name}

theorem AllInTable.append_iff {xs ys : List Char} : AllInTable (xs ++ ys) ↔ AllInTable xs ∧ AllInTable ys :=
  List.forall_mem_append

theorem AllInTable.nil : AllInTable [] := by
  intro c hc
  cases hc

theorem AllInTable.pair_iff {c d : Char} : AllInTable [c, d] ↔ InTable c ∧ InTable d := by
  simp [AllInTable]

theorem inTable_of_headOrder (h : 0 < headOrder a) : InTable (charAt a) := by
  cases a with
  | nil => exact absurd h (Nat.lt_irrefl 0)
  | cons c a => exact riscvExtOrder_range h

theorem inTable_of_class (h : riscvGetPrefixClass a ≠ .single) : InTable (charAt a) := by
  have hhead := head?_eq_letter h
  have hletter : ∀ k : PrefixClass, k ≠ .single → ∃ c, k.letter = some c ∧ InTable c := by
    intro k hk
    cases k with
    | single => exact absurd rfl hk
    | z => exact ⟨'z', rfl, by decide⟩
    | s => exact ⟨'s', rfl, by decide⟩
    | zxm => exact ⟨'z', rfl, by decide⟩
    | x => exact ⟨'x', rfl, by decide⟩
  obtain ⟨c, hc, hin⟩ := hletter _ h
  rw [hc] at hhead
  obtain ⟨rest, rfl⟩ := List.head?_eq_some_iff.mp hhead
  exact hin

/-- The first character of a name that can be parsed is a lower-case letter. -/
theorem ParsedName.inTable (h : ParsedName a) : InTable (charAt a) := by
  by_cases ho : 0 < headOrder a
  · exact inTable_of_headOrder ho
  · exact inTable_of_class (h.prefixed ho).1

theorem prefixedOrder_eq_z_iff : prefixedOrder a = -1 ↔ riscvGetPrefixClass a = .z := by
  unfold prefixedOrder
  cases hclass : riscvGetPrefixClass a <;> simp [PrefixClass.order]

/-- The second characters of two z extensions are read. -/
theorem compareAccesses_inTable_iff (ha : InTable (charAt a)) (hb : InTable (charAt b)) :
    AllInTable (compareAccesses a b) ↔ (riscvGetPrefixClass a = .z → riscvGetPrefixClass b = .z →
      InTable (charAt (a.drop 1)) ∧ InTable (charAt (b.drop 1))) := by
  rw [compareAccesses, AllInTable.append_iff, AllInTable.pair_iff, and_iff_right ⟨ha, hb⟩]
  by_cases hboth : riscvGetPrefixClass a = .z ∧ riscvGetPrefixClass b = .z
  · obtain ⟨hza, hzb⟩ := hboth
    have hnone : ¬(0 < headOrder a ∧ 0 < headOrder b) := by
      rintro ⟨hoa, -⟩
      rw [class_eq_single_of_headOrder hoa] at hza
      cases hza
    have hsame : prefixedOrder a = prefixedOrder b := by
      rw [prefixedOrder_eq_z_iff.mpr hza, prefixedOrder_eq_z_iff.mpr hzb]
    rw [if_neg hnone, if_pos ⟨hsame, hza⟩, AllInTable.pair_iff]
    exact ⟨fun h _ _ => h, fun h => h hza hzb⟩
  · have hrest : (if 0 < headOrder a ∧ 0 < headOrder b then []
        else if prefixedOrder a = prefixedOrder b ∧ riscvGetPrefixClass a = .z then
          [charAt (a.drop 1), charAt (b.drop 1)]
        else []) = ([] : List Char) := by
      split
      · rfl
      · refine if_neg ?_
        rintro ⟨hsame, hza⟩
        rw [prefixedOrder_eq_z_iff.mpr hza, eq_comm, prefixedOrder_eq_z_iff] at hsame
        exact hboth ⟨hza, hsame⟩
    rw [hrest]
    exact ⟨fun _ hza hzb => absurd ⟨hza, hzb⟩ hboth, fun _ => AllInTable.nil⟩

/-- The second character of a z extension is a lower-case letter. -/
def SecondInTable (n : Name) : Prop := riscvGetPrefixClass n = .z → InTable (charAt (n.drop 1))

theorem GoodName.secondInTable (h : GoodName a) : SecondInTable a := fun hz => inTable_of_headOrder (h.second hz)

end Names

end RiscvBinutils.Isa
