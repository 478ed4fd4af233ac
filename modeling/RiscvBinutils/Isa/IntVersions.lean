/-
The versions in a list that the parser and `.option arch` make (bfd/elfxx-riscv.c) are an `int`.
-/
import RiscvBinutils.Isa.Faithful
import RiscvBinutils.Isa.Invariant

namespace RiscvBinutils.Isa

open Std RiscvBinutils.Base

section Versions

variable {l : SubsetList} {rps : Rps} {st : ParseState}

/-- The versions in a list are an `int`. -/
structure IntVersions (l : SubsetList) : Prop extends l.Wf where
  versions : ∀ s ∈ l.nodes, IsInt s.major ∧ IsInt s.minor

/-! ## Additions -/

theorem resolveVersion_isInt (isaSpec : Option IsaSpecClass) (n : Name) {major minor : Int} (hmajor : IsInt major)
    (hminor : IsInt minor) :
    IsInt (resolveVersion isaSpec n major minor).1 ∧ IsInt (resolveVersion isaSpec n major minor).2 := by
  rw [resolveVersion]
  split
  · cases hdefault : riscvGetDefaultExtVersion isaSpec n with
    | none => exact ⟨hmajor, hminor⟩
    | some v =>
      have hread := (default_ok hdefault).2.2
      exact ⟨hread.majorInt, hread.minorInt⟩
  · exact ⟨hmajor, hminor⟩

theorem IntVersions.nil : IntVersions {} := ⟨.nil, fun _ hs => absurd hs List.not_mem_nil⟩

theorem IntVersions.parseAdd (h : IntVersions st.list) (n : Name) {major minor : Int} (hmajor : IsInt major)
    (hminor : IsInt minor) (implicit : Bool) :
    IntVersions (riscvParseAddSubset rps st n major minor implicit).list := by
  have hresolved := resolveVersion_isInt rps.isaSpec n hmajor hminor
  rw [riscvParseAddSubset]
  split
  · split
    · exact h
    · split <;> exact h
  · refine ⟨riscvAddSubset_wf h.toWf _ _ _, fun s hs => ?_⟩
    rcases mem_of_mem_add h.toWf hs with rfl | hs
    · exact hresolved
    · exact h.versions s hs

theorem IntVersions.remove (h : IntVersions l) (n : Name) : IntVersions (riscvRemoveSubset l n) :=
  ⟨riscvRemoveSubset_wf h.toWf n, fun s hs => h.versions s ((mem_remove h.toWf n).mp hs).1⟩

theorem IntVersions.implicit (h : IntVersions st.list) {rows : List ImplicitSubset} {fuel : Nat} {st' : ParseState}
    (hloop : implicitLoop rps rows fuel st = some st') : IntVersions st'.list := by
  induction fuel generalizing st with
  | zero => cases hloop
  | succ fuel ih =>
    rw [implicitLoop] at hloop
    split at hloop
    · cases hloop
      exact h
    · exact ih (h.parseAdd _ isInt_unknown isInt_unknown _) hloop

theorem IntVersions.closed (h : IntVersions st.list) :
    IntVersions (riscvParseCheckConflicts (riscvParseAddImplicitSubsets rps st)).2.list := by
  rw [(riscvParseCheckConflicts_list _).1, riscvParseAddImplicitSubsets, addImplicitSubsets]
  cases hloop : implicitLoop rps riscvImplicitSubsets (riscvImplicitSubsets.length + 1) st with
  | none => exact h
  | some st' => exact h.implicit hloop

theorem IntVersions.tokens (rps : Rps) (h : IntVersions st.list) {ts : List Token}
    (hts : ∀ t ∈ ts, TokenVersion t.major t.minor) : IntVersions (ts.foldl (addToken rps) st).list := by
  induction ts generalizing st with
  | nil => exact h
  | cons t ts ih =>
    refine ih ?_ fun u hu => hts u (List.mem_cons_of_mem t hu)
    have ht := hts t List.mem_cons_self
    rw [addToken]
    split
    · exact h.parseAdd _ isInt_unknown isInt_unknown _
    · exact h.parseAdd _ ht.majorInt ht.minorInt _

/-! ## The two entry points -/

/-- The parser leaves versions that are an `int`. -/
theorem IntVersions.parse (h : IntVersions st.list) (arch : Option (List Char)) :
    IntVersions (riscvParseSubset rps arch st).2.list := by
  unfold riscvParseSubset
  split
  · refine closed ?_
    rw [riscvSetDefaultArch_eq]
    exact h.parseAdd _ isInt_unknown isInt_unknown _
  · rename_i arch
    split
    · exact h
    · rename_i hlower
      split
      · split <;> exact h
      · rename_i xlen p hxlen
        have hp := lower_of_archXlen (Bool.not_eq_true _ ▸ hlower) hxlen
        have hext : IntVersions (riscvParseExtensions rps arch p { st with xlen }).2.list := by
          have h' : IntVersions ({ st with xlen } : ParseState).list := h
          have hadded := h'.tokens rps fun t ht =>
            (@scanExtensions_clean rps.checkUnknownPrefixedExt arch p.length p hp t ht).2.1
          rw [riscvParseExtensions]
          split
          · dsimp only
            split <;> exact hadded
          · exact h
        split
        · rename_i st₁ heq
          rwa [heq] at hext
        · rename_i st₁ heq
          rw [heq] at hext
          exact hext.closed

theorem nextUpdate_version {check : Bool} {str p rest : List Char} {t : Token}
    (h : nextUpdate check str p = .ok (t, rest)) : TokenVersion t.major t.minor := by
  unfold nextUpdate at h
  dsimp only at h
  split at h
  · cases h
  · split at h
    · cases h
    · split at h
      · cases h
      · cases h
        exact riscvParsingSubsetVersion_ok _

/-- `.option arch` leaves versions that are an `int`. -/
theorem IntVersions.update (h : IntVersions st.list) (str : List Char) :
    IntVersions (riscvUpdateSubset rps str st).2.list := by
  have hloop (fuel : Nat) (p : List Char) (st : ParseState) (h : IntVersions st.list) :
      IntVersions (updateLoop rps str fuel p st).2.list := by
    induction fuel generalizing p st with
    | zero => exact h
    | succ fuel ih =>
      unfold updateLoop
      dsimp only
      split
      · exact IntVersions.nil.parse _
      · rename_i removed q hsigned
        split
        · exact h
        · rename_i t rest htoken
          have ht := nextUpdate_version htoken
          have hnext : IntVersions (if removed then { st with list := riscvRemoveSubset st.list t.name }
              else riscvParseAddSubset rps st t.name t.major t.minor true).list := by
            split
            · exact h.remove _
            · exact h.parseAdd _ ht.majorInt ht.minorInt _
          split
          · exact ih _ _ hnext
          · exact hnext.closed
  exact hloop _ str st h

end Versions

end RiscvBinutils.Isa
