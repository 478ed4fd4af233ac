/-
Relaxation never lengthens a branch.
Relocations and symbols are moved by two different tests; over any sequence of deletions the distance
from a branch to a symbol of its section only shrinks, so the short forms the assembler chose stay
in reach.
-/
import RiscvBinutils.Base.Shrink
import RiscvBinutils.Bfd.Delete
import RiscvBinutils.Bfd.Perform

namespace RiscvBinutils.Bfd

open RiscvBinutils.Base RiscvBinutils.Opcode

/-! ## Runs of deletions -/

/-- The arguments of one call of `_riscv_relax_delete_bytes`. -/
structure DeleteCall where
  addr : Vma
  count : Vma
  p : Option PcgpRelocs := none
  deleteTotal : Vma := 0
  toaddr : Vma := 0

def deleteCall (info : SecInfo) (st : SecState) (c : DeleteCall) : SecState :=
  (riscvRelaxDeleteBytes info st c.addr c.count c.p c.deleteTotal c.toaddr).1

def deleteCalls (info : SecInfo) (st : SecState) (calls : List DeleteCall) : SecState :=
  calls.foldl (deleteCall info) st

/-- A local symbol, by index, or an entry of the linker's hash table. -/
inductive SymRef
  | ofLocal (i : Nat)
  | ofGlobal (p : Nat)
  deriving DecidableEq, Repr

/-- The value of a symbol that is defined in the section. -/
def SymRef.value (info : SecInfo) (st : SecState) : SymRef → Option Vma
  | ofLocal i => (st.locals[i]?.filter fun s => s.shndx = info.shndx).map (·.value)
  | ofGlobal p => (st.hashes[p]?.filter fun h =>
      (h.rootType = .defined ∨ h.rootType = .defweak) ∧ h.defSection = some info.sec).map (·.defValue)

/-- A global symbol of the file stands in `sym_hashes`, and more than once only under `--wrap` or when
it is versioned. -/
def SymRef.Listed (info : SecInfo) (st : SecState) : SymRef → Prop
  | ofLocal _ => True
  | ofGlobal p => p ∈ info.symHashes ∧ ∀ h, st.hashes[p]? = some h →
      (info.wrapHash ∨ h.versioned ≠ .unversioned) ∨ info.symHashes.count p ≤ 1

/-- Each call of the run deletes an even number of bytes inside the section; the range holds neither
the branch at relocation `i`, nor the symbol strictly inside. -/
def Admissible (info : SecInfo) (i : Nat) (y : SymRef) : SecState → List DeleteCall → Prop
  | _, [] => True
  | st, c :: cs =>
    c.count.toNat % 2 = 0 ∧ c.addr.toNat + c.count.toNat ≤ st.size.toNat ∧
    (∀ r, st.relocs[i]? = some r → r.offset.toNat < c.addr.toNat ∨ c.addr.toNat + c.count.toNat ≤ r.offset.toNat) ∧
    (∀ v, y.value info st = some v → v.toNat ≤ c.addr.toNat ∨ c.addr.toNat + c.count.toNat ≤ v.toNat) ∧
    Admissible info i y (deleteCall info st c) cs

/-! ## One deletion -/

section Step

variable {info : SecInfo} {st : SecState} {addr count toaddr : Vma}

/-- Inside the section the two tests of the code agree with deleting a range from a line. -/
theorem adjustRela_offset_toNat {r : Rela} (hin : r.offset.toNat < toaddr.toNat)
    (hout : r.offset.toNat ≤ addr.toNat ∨ addr.toNat + count.toNat ≤ r.offset.toNat) :
    (adjustRela addr count toaddr r).offset.toNat = retract addr.toNat count.toNat r.offset.toNat := by
  unfold adjustRela retract
  by_cases h : addr.toNat < r.offset.toNat
  · rw [if_pos ⟨BitVec.lt_def.mpr h, BitVec.lt_def.mpr hin⟩, if_pos h, BitVec.toNat_sub]
    omega
  · rw [if_neg (fun hc => h (BitVec.lt_def.mp hc.1)), if_neg h]

theorem adjustSym_value_toNat {value size : Vma} (hin : value.toNat ≤ toaddr.toNat)
    (hout : value.toNat ≤ addr.toNat ∨ addr.toNat + count.toNat ≤ value.toNat) :
    (adjustSym addr count toaddr value size).1.toNat = retract addr.toNat count.toNat value.toNat := by
  unfold adjustSym retract
  by_cases h : addr.toNat < value.toNat
  · rw [if_pos ⟨BitVec.lt_def.mpr h, BitVec.le_def.mpr hin⟩, if_pos h, BitVec.toNat_sub]
    omega
  · rw [if_neg (fun hc => h (BitVec.lt_def.mp hc.1)), if_neg h]
    split <;> rfl

variable (info addr count toaddr) in
theorem adjustHash_kind (h : HashEntry) :
    (adjustHash info addr count toaddr h).rootType = h.rootType ∧
      (adjustHash info addr count toaddr h).defSection = h.defSection ∧
      (adjustHash info addr count toaddr h).versioned = h.versioned := by
  unfold adjustHash
  split <;> exact ⟨rfl, rfl, rfl⟩

/-- Entries that are not in the rest of the list are left alone. -/
theorem adjustHashes_of_notMem {p : Nat} : ∀ (seen rest : List Nat) (hs : List HashEntry), p ∉ rest →
    (adjustHashes info addr count toaddr seen rest hs)[p]? = hs[p]?
  | _, [], _, _ => rfl
  | seen, q :: rest, hs, hp => by
    have hq : q ≠ p := fun h => hp (h ▸ List.mem_cons_self ..)
    have hrest : p ∉ rest := fun h => hp (List.mem_cons_of_mem _ h)
    rw [adjustHashes, adjustHashes_of_notMem _ rest _ hrest]
    split
    · rfl
    · split
      · rfl
      · rw [List.getElem?_set_ne hq]

/-- An entry already seen is not adjusted again, when duplicates are looked for. -/
theorem adjustHashes_of_seen {p : Nat} {h : HashEntry} (hdup : info.wrapHash ∨ h.versioned ≠ .unversioned) :
    ∀ (seen rest : List Nat) (hs : List HashEntry), p ∈ seen → hs[p]? = some h →
      (adjustHashes info addr count toaddr seen rest hs)[p]? = some h
  | _, [], _, _, hh => hh
  | seen, q :: rest, hs, hseen, hh => by
    rw [adjustHashes]
    refine adjustHashes_of_seen hdup _ rest _ (List.mem_append_left _ hseen) ?_
    by_cases hq : q = p
    · subst hq
      simp only [hh, if_pos (And.intro hdup hseen)]
    · split
      · exact hh
      · split
        · exact hh
        · rw [List.getElem?_set_ne hq, hh]

/-- A listed entry is adjusted exactly once. -/
theorem adjustHashes_getElem? {p : Nat} {h : HashEntry} :
    ∀ (seen rest : List Nat) (hs : List HashEntry), p ∉ seen → p ∈ rest → hs[p]? = some h →
      ((info.wrapHash ∨ h.versioned ≠ .unversioned) ∨ rest.count p ≤ 1) →
      (adjustHashes info addr count toaddr seen rest hs)[p]? = some (adjustHash info addr count toaddr h)
  | _, [], _, _, hmem, _, _ => absurd hmem (by simp)
  | seen, q :: rest, hs, hseen, hmem, hh, honce => by
    have hlt : p < hs.length := (List.getElem?_eq_some_iff.mp hh).1
    rw [adjustHashes]
    by_cases hq : q = p
    · subst hq
      have hnot : ¬ ((info.wrapHash ∨ h.versioned ≠ .unversioned) ∧ q ∈ seen) := fun hc => hseen hc.2
      simp only [hh, if_neg hnot]
      rcases honce with hdup | honce
      · have hdup' : info.wrapHash ∨ (adjustHash info addr count toaddr h).versioned ≠ .unversioned := by
          rw [(adjustHash_kind _ _ _ _ h).2.2]
          exact hdup
        exact adjustHashes_of_seen hdup' _ rest _ (by simp) (List.getElem?_set_self hlt)
      · have hnot' : q ∉ rest := by
          rw [List.count_cons_self] at honce
          exact fun hc => absurd (List.count_pos_iff.mpr hc) (by omega)
        rw [adjustHashes_of_notMem _ rest _ hnot', List.getElem?_set_self hlt]
    · have hseen' : p ∉ seen ++ [q] := by
        rw [List.mem_append, List.mem_singleton]
        rintro (hc | hc)
        · exact hseen hc
        · exact hq hc.symm
      have hmem' : p ∈ rest := by
        rcases List.mem_cons.mp hmem with hc | hc
        · exact absurd hc.symm hq
        · exact hc
      have honce' : (info.wrapHash ∨ h.versioned ≠ .unversioned) ∨ rest.count p ≤ 1 := by
        rw [List.count_cons_of_ne hq] at honce
        exact honce
      refine adjustHashes_getElem? _ rest _ hseen' hmem' ?_ honce'
      split
      · exact hh
      · split
        · exact hh
        · rw [List.getElem?_set_ne hq, hh]

/-- A symbol of the section moves as on a line, and stays a symbol of the section. -/
theorem SymRef.value_deleteCall {y : SymRef} {v : Vma} {c : DeleteCall} (hy : y.value info st = some v)
    (hlist : y.Listed info st) (hin : v.toNat ≤ st.size.toNat)
    (hout : v.toNat ≤ c.addr.toNat ∨ c.addr.toNat + c.count.toNat ≤ v.toNat) :
    ∃ v', y.value info (deleteCall info st c) = some v' ∧
      v'.toNat = retract c.addr.toNat c.count.toNat v.toNat ∧ y.Listed info (deleteCall info st c) := by
  cases y with
  | ofLocal i =>
    simp only [SymRef.value, Option.map_eq_some_iff, Option.filter_eq_some_iff, decide_eq_true_eq] at hy
    obtain ⟨s, ⟨hs, hsec⟩, rfl⟩ := hy
    refine ⟨(adjustSym c.addr c.count st.size s.value s.size).1, ?_, adjustSym_value_toNat hin hout, trivial⟩
    rw [SymRef.value, deleteCall, deleteBytes_locals, List.getElem?_map, hs, Option.map_some, adjustLocal,
      if_pos hsec]
    simp [hsec]
  | ofGlobal p =>
    simp only [SymRef.value, Option.map_eq_some_iff, Option.filter_eq_some_iff, decide_eq_true_eq] at hy
    obtain ⟨h, ⟨hh, hdef⟩, rfl⟩ := hy
    obtain ⟨hmem, honce⟩ := hlist
    have hget : (deleteCall info st c).hashes[p]? = some (adjustHash info c.addr c.count st.size h) := by
      rw [deleteCall, deleteBytes_hashes]
      exact adjustHashes_getElem? [] info.symHashes st.hashes (by simp) hmem hh (honce h hh)
    obtain ⟨hk1, hk2, hk3⟩ := adjustHash_kind info c.addr c.count st.size h
    refine ⟨(adjustSym c.addr c.count st.size h.defValue h.size).1, ?_, adjustSym_value_toNat hin hout, hmem, ?_⟩
    · have hval : (adjustHash info c.addr c.count st.size h).defValue =
          (adjustSym c.addr c.count st.size h.defValue h.size).1 := by
        rw [adjustHash, if_pos hdef]
      rw [SymRef.value, hget, Option.filter_some, hk1, hk2, if_pos (by simpa using hdef), Option.map_some, hval]
    · intro h' hh'
      rw [hget, Option.some.injEq] at hh'
      rw [← hh', hk3]
      exact honce h hh

end Step

/-! ## A whole run -/

/-- Over a run, the branch and the symbol stay where they are in the tables, and their distance only
shrinks. -/
theorem deleteCalls_shrinks {info : SecInfo} {i : Nat} {y : SymRef} :
    ∀ (calls : List DeleteCall) {st : SecState} {rel : Rela} {v : Vma}, st.relocs[i]? = some rel →
      y.value info st = some v → y.Listed info st → rel.offset.toNat < st.size.toNat →
      v.toNat ≤ st.size.toNat → Admissible info i y st calls →
      ∃ rel' v', (deleteCalls info st calls).relocs[i]? = some rel' ∧
        y.value info (deleteCalls info st calls) = some v' ∧ rel'.type = rel.type ∧ rel'.addend = rel.addend ∧
        rel'.offset.toNat ≤ rel.offset.toNat ∧ v'.toNat ≤ v.toNat ∧
        Shrinks ((v.toNat : Int) - rel.offset.toNat) ((v'.toNat : Int) - rel'.offset.toNat)
  | [], _, rel, v, hrel, hy, _, _, _, _ => ⟨rel, v, hrel, hy, rfl, rfl, le_rfl, le_rfl, Shrinks.refl _⟩
  | c :: cs, st, rel, v, hrel, hy, hlist, hxin, hyin, ⟨heven, hrange, hx, hyout, hrest⟩ => by
    have hxout := hx rel hrel
    have hyout := hyout v hy
    have hstep : (deleteCall info st c).relocs[i]? = some (adjustRela c.addr c.count st.size rel) := by
      rw [deleteCall, deleteBytes_relocs, List.getElem?_map, hrel, Option.map_some]
    obtain ⟨v₁, hy₁, hv₁, hlist₁⟩ := SymRef.value_deleteCall (c := c) hy hlist hyin hyout
    have hx₁ := adjustRela_offset_toNat hxin (hxout.imp_left Nat.le_of_lt)
    have hsize : (deleteCall info st c).size.toNat = st.size.toNat - c.count.toNat := by
      rw [deleteCall, deleteBytes_size, BitVec.toNat_sub]
      omega
    have hxin₁ : (adjustRela c.addr c.count st.size rel).offset.toNat < (deleteCall info st c).size.toNat := by
      rw [hx₁, hsize, retract]
      split <;> omega
    have hyin₁ : v₁.toNat ≤ (deleteCall info st c).size.toNat := by
      rw [hv₁, hsize, retract]
      split <;> omega
    have hdown : ∀ z, retract c.addr.toNat c.count.toNat z ≤ z := by
      intro z
      rw [retract]
      split <;> omega
    obtain ⟨rel', v', hrel', hy', htype, haddend, hle, hle', hshrink⟩ :=
      deleteCalls_shrinks cs hstep hy₁ hlist₁ hxin₁ hyin₁ hrest
    have hone : Shrinks ((v.toNat : Int) - rel.offset.toNat)
        ((v₁.toNat : Int) - (adjustRela c.addr c.count st.size rel).offset.toNat) := by
      rw [hv₁, hx₁]
      exact retract_shrinks heven (hxout.imp_left Nat.le_of_lt) hyout
    exact ⟨rel', v', hrel', hy', by rw [htype, adjustRela_type], by rw [haddend, adjustRela_addend],
      hle.trans (hx₁ ▸ hdown _), hle'.trans (hv₁ ▸ hdown _), hone.trans hshrink⟩

/-- The `VALID_*` test that `perform_relocation` makes for a branch or jump. -/
def branchValid : RelocType → Vma → Bool
  | .branch, d => validBtypeImm d
  | .jal, d => validJtypeImm d
  | .rvcBranch, d => validCbtypeImm d
  | .rvcJump, d => validCjtypeImm d
  | _, _ => false

/-- How far each kind reaches. -/
def branchReach : RelocType → Int
  | .branch => 4096
  | .jal => 1048576
  | .rvcBranch => 256
  | .rvcJump => 2048
  | _ => 0

theorem branchValid_iff (type : RelocType) (d : Vma) :
    branchValid type d = true ↔
      (-branchReach type ≤ d.toInt ∧ d.toInt < branchReach type) ∧ d.toNat % 2 = 0 := by
  cases type <;> simp only [branchValid, branchReach, validBtypeImm_iff, validJtypeImm_iff, validCbtypeImm_iff,
    validCjtypeImm_iff]
  all_goals
    constructor
    · intro h; exact absurd h (by decide)
    · omega

/-- For a branch or jump, `perform_relocation` succeeds when the distance passes the test. -/
theorem performRelocation_branch_ok {tgt : Target} {rel : Rela} {v secAddr : Vma} {contents : List Byte}
    (hadd : rel.addend = 0) (h : branchValid rel.type (v - rel.offset)) :
    (performRelocation tgt rel (secAddr + v) secAddr contents).1 = .ok := by
  have hdist : secAddr + v - (secAddr + rel.offset) = v - rel.offset := by
    bv_omega
  unfold performRelocation
  generalize htype : rel.type = type at h
  cases type <;> simp only [branchValid, Bool.false_eq_true] at h <;>
    simp [howto, relocField, hadd, hdist, h]

/-- Below half the address space, the distance of two offsets is the difference of their values. -/
theorem toInt_sub_of_lt {x v : Vma} (hx : x.toNat < 2 ^ 63) (hv : v.toNat < 2 ^ 63) :
    (v - x).toInt = (v.toNat : Int) - x.toNat := by
  rw [BitVec.toInt_sub, Int.bmod_eq_of_le, BitVec.toInt_eq_toNat_of_lt (by omega),
    BitVec.toInt_eq_toNat_of_lt (by omega)]
  all_goals
    rw [BitVec.toInt_eq_toNat_of_lt (by omega), BitVec.toInt_eq_toNat_of_lt (by omega)]
    omega

/-- Whatever is deleted around them, a branch inside the section and a symbol of the section (its end
included) only come closer, keep their order and the parity of their distance; so an offset that fitted
the branch's format when it was assembled is still accepted when it is relocated.  A section is in
memory, hence smaller than half the address space. -/
theorem deleteCalls_branch_in_range (info : SecInfo) (st : SecState) (calls : List DeleteCall) (i : Nat)
    (y : SymRef) (rel : Rela) (v : Vma) (hrel : st.relocs[i]? = some rel) (hy : y.value info st = some v)
    (hlist : y.Listed info st) (hsmall : st.size.toNat < 2 ^ 63) (hxin : rel.offset.toNat < st.size.toNat)
    (hyin : v.toNat ≤ st.size.toNat) (hadm : Admissible info i y st calls) :
    ∃ rel' v', (deleteCalls info st calls).relocs[i]? = some rel' ∧
      y.value info (deleteCalls info st calls) = some v' ∧
      Shrinks ((v.toNat : Int) - rel.offset.toNat) ((v'.toNat : Int) - rel'.offset.toNat) ∧
      (rel.addend = 0 → branchValid rel.type (v - rel.offset) →
        ∀ tgt secAddr contents, (performRelocation tgt rel' (secAddr + v') secAddr contents).1 = .ok) := by
  obtain ⟨rel', v', hrel', hy', htype, haddend, hle, hle', hshrink⟩ :=
    deleteCalls_shrinks calls hrel hy hlist hxin hyin hadm
  refine ⟨rel', v', hrel', hy', hshrink, fun hzero hvalid tgt secAddr contents => ?_⟩
  apply performRelocation_branch_ok (haddend.trans hzero)
  rw [htype, branchValid_iff, toInt_sub_of_lt (by omega) (by omega)]
  rw [branchValid_iff, toInt_sub_of_lt (by omega) (by omega)] at hvalid
  obtain ⟨hreach, heven⟩ := hvalid
  refine ⟨hshrink.mem_range (by omega) (by omega) hreach, ?_⟩
  have hparity := hshrink.parity
  rw [BitVec.toNat_sub] at heven ⊢
  omega

/-! A symbol may lie past the end of its section (`foo = . + 300`); the code leaves it where it is. -/

def pastEndInfo : SecInfo := { sec := 0, shndx := 1, symHashes := [] }

def pastEnd : SecState where
  size := 16
  contents := List.replicate 16 0
  relocs := [⟨8, 1, .rvcBranch, 0⟩]
  locals := [⟨262, 0, 1, .notype⟩]
  hashes := []

/-- Deleting `[0, 4)` moves the branch but not the symbol: the distance grows from 254 to 258, out of
reach of a compressed branch. -/
theorem pastEnd_distance_grows :
    (SymRef.ofLocal 0).value pastEndInfo pastEnd = some 262 ∧ branchValid .rvcBranch (262 - 8) = true ∧
      (deleteCalls pastEndInfo pastEnd [{ addr := 0, count := 4 }]).relocs[0]? = some ⟨4, 1, .rvcBranch, 0⟩ ∧
      (SymRef.ofLocal 0).value pastEndInfo (deleteCalls pastEndInfo pastEnd [{ addr := 0, count := 4 }]) = some 262 ∧
      ¬ |(262 : Int) - 4| ≤ |(262 : Int) - 8| ∧
      (performRelocation { xlen := .rv64 } ⟨4, 1, .rvcBranch, 0⟩ (0x1000 + 262) 0x1000 []).1 = .overflow := by
  decide

/-- A branch over a deleted call, to the end of the section. -/
def branchOver : SecState where
  size := 16
  contents := List.replicate 16 0
  relocs := [⟨0, 1, .branch, 0⟩]
  locals := [⟨16, 0, 1, .notype⟩]
  hashes := []

theorem branchOver_in_range :
    ∃ rel' v', (deleteCalls pastEndInfo branchOver [{ addr := 8, count := 4 }]).relocs[0]? = some rel' ∧
      (SymRef.ofLocal 0).value pastEndInfo (deleteCalls pastEndInfo branchOver [{ addr := 8, count := 4 }]) = some v' ∧
      Shrinks 16 ((v'.toNat : Int) - rel'.offset.toNat) ∧
      ∀ tgt secAddr contents, (performRelocation tgt rel' (secAddr + v') secAddr contents).1 = .ok := by
  obtain ⟨rel', v', h1, h2, h3, h4⟩ := deleteCalls_branch_in_range pastEndInfo branchOver [{ addr := 8, count := 4 }]
    0 (.ofLocal 0) ⟨0, 1, .branch, 0⟩ 16 rfl rfl trivial (by decide) (by decide) (by decide)
    ⟨by decide, by decide, by rintro r ⟨⟩; decide, by rintro v ⟨⟩; decide, trivial⟩
  exact ⟨rel', v', h1, h2, h3, h4 rfl (by decide)⟩

end RiscvBinutils.Bfd
