/-
Formulas over atoms without negation: their value grows with the set of atoms that hold, and it
depends on no atom that does not occur.
-/
import Mathlib.Data.List.Basic

namespace RiscvBinutils.Base

/-- A formula of atoms, conjunctions and disjunctions. -/
inductive Positive (α : Type) where
  | atom (a : α)
  | and (p q : Positive α)
  | or (p q : Positive α)

namespace Positive

variable {α : Type} {has has' : α → Bool}

instance : Coe α (Positive α) := ⟨.atom⟩

def holds (has : α → Bool) : Positive α → Bool
  | atom a => has a
  | and p q => p.holds has && q.holds has
  | or p q => p.holds has || q.holds has

def atoms : Positive α → List α
  | atom a => [a]
  | and p q => p.atoms ++ q.atoms
  | or p q => p.atoms ++ q.atoms

/-- With more atoms a formula does not become false. -/
theorem holds_mono {p : Positive α} (h : ∀ a ∈ p.atoms, has a = true → has' a = true) (hp : p.holds has = true) :
    p.holds has' = true := by
  induction p with
  | atom a => exact h a (List.mem_singleton_self a) hp
  | and p q ihp ihq =>
    rw [holds, Bool.and_eq_true] at hp ⊢
    exact ⟨ihp (fun a ha => h a (List.mem_append_left _ ha)) hp.1,
      ihq (fun a ha => h a (List.mem_append_right _ ha)) hp.2⟩
  | or p q ihp ihq =>
    rw [holds, Bool.or_eq_true] at hp ⊢
    rcases hp with hp | hq
    · exact .inl (ihp (fun a ha => h a (List.mem_append_left _ ha)) hp)
    · exact .inr (ihq (fun a ha => h a (List.mem_append_right _ ha)) hq)

/-- Only the atoms that occur count. -/
theorem holds_congr {p : Positive α} (h : ∀ a ∈ p.atoms, has a = has' a) : p.holds has = p.holds has' := by
  rw [Bool.eq_iff_iff]
  exact ⟨holds_mono fun a ha hhas => h a ha ▸ hhas, holds_mono fun a ha hhas => (h a ha).symm ▸ hhas⟩

end Positive

end RiscvBinutils.Base
