/-
Deleting bytes from a section while relaxing (bfd/elfnn-riscv.c, `_riscv_relax_delete_bytes` and
the functions around it), and the equivalence of its two schedules: one sweep over the relocations
marked for deletion, or one deletion after another.
-/
import RiscvBinutils.Base.Buffer
import RiscvBinutils.Bfd.Basic

namespace RiscvBinutils.Bfd

open RiscvBinutils.Base

/-! ## The code -/

/-- `riscv_update_pcgp_relocs`; `size` is the section size after the deletion. -/
def riscvUpdatePcgpRelocs (p : PcgpRelocs) (deletedSec : Nat) (size deletedAddr deletedCount : Vma) :
    PcgpRelocs :=
  let toaddr := size + deletedCount
  { lo := p.lo.map fun l => if deletedAddr < l ∧ l < toaddr then l - deletedCount else l
    hi := p.hi.map fun h =>
      let h := if deletedAddr < h.hiSecOff ∧ h.hiSecOff < toaddr
        then { h with hiSecOff := h.hiSecOff - deletedCount } else h
      if h.symSec = deletedSec ∧ deletedAddr < h.hiAddr ∧ h.hiAddr < toaddr
        then { h with hiAddr := h.hiAddr - deletedCount } else h }

/-- The loop over the relocations: strictly between `addr` and `toaddr` they move down. -/
def adjustRela (addr count toaddr : Vma) (r : Rela) : Rela :=
  if addr < r.offset ∧ r.offset < toaddr then { r with offset := r.offset - count } else r

/-- The two symbol loops share this: the value moves, or the symbol spans the deleted bytes and
its size shrinks. -/
def adjustSym (addr count toaddr value size : Vma) : Vma × Vma :=
  if addr < value ∧ value ≤ toaddr then (value - count, size)
  else if value ≤ addr ∧ addr < value + size ∧ value + size ≤ toaddr then (value, size - count)
  else (value, size)

def adjustLocal (info : SecInfo) (addr count toaddr : Vma) (s : LocalSym) : LocalSym :=
  if s.shndx = info.shndx then
    let vs := adjustSym addr count toaddr s.value s.size
    { s with value := vs.1, size := vs.2 }
  else s

def adjustHash (info : SecInfo) (addr count toaddr : Vma) (h : HashEntry) : HashEntry :=
  if (h.rootType = .defined ∨ h.rootType = .defweak) ∧ h.defSection = some info.sec then
    let vs := adjustSym addr count toaddr h.defValue h.size
    { h with defValue := vs.1, size := vs.2 }
  else h

/-- The loop over `sym_hashes`.  With `--wrap`, and for versioned symbols, one entry may stand there
several times; it is then adjusted only the first time. -/
def adjustHashes (info : SecInfo) (addr count toaddr : Vma) :
    (seen rest : List Nat) → List HashEntry → List HashEntry
  | _, [], hs => hs
  | seen, p :: rest, hs =>
    let hs' :=
      match hs[p]? with
      | none => hs
      | some h =>
        if (info.wrapHash ∨ h.versioned ≠ .unversioned) ∧ p ∈ seen then hs
        else hs.set p (adjustHash info addr count toaddr h)
    adjustHashes info addr count toaddr (seen ++ [p]) rest hs'

/-- `_riscv_relax_delete_bytes`.  `deleteTotal` and `toaddr` only say which bytes to move; the
adjustments always run up to the old end of the section. -/
def riscvRelaxDeleteBytes (info : SecInfo) (st : SecState) (addr count : Vma) (p : Option PcgpRelocs)
    (deleteTotal toaddr : Vma) : SecState × Option PcgpRelocs :=
  let bytesToMove := toaddr - addr - count
  let size := st.size - count
  let contents := memmove st.contents addr.toNat (addr + count + deleteTotal).toNat bytesToMove.toNat
  let toaddr := size + count
  ({ size, contents
     relocs := st.relocs.map (adjustRela addr count toaddr)
     locals := st.locals.map (adjustLocal info addr count toaddr)
     hashes := adjustHashes info addr count toaddr [] info.symHashes st.hashes },
   p.map fun p => riscvUpdatePcgpRelocs p info.sec size addr count)

/-- `rel->r_info = ELFNN_R_INFO (0, type)`. -/
def setInfo (st : SecState) (rel : Nat) (type : RelocType) : SecState :=
  { st with relocs := st.relocs.modify rel fun r => { r with sym := 0, type } }

/-- `_riscv_relax_delete_piecewise`: only mark the bytes. -/
def riscvRelaxDeletePiecewise (rel : Rela) (addr count : Vma) : Rela :=
  { rel with sym := 0, type := .delete, offset := addr, addend := count }

/-- `_riscv_relax_delete_immediate`; `rel` is the relocation to reuse, if any. -/
def riscvRelaxDeleteImmediate (info : SecInfo) (st : SecState) (addr count : Vma)
    (p : Option PcgpRelocs) (rel : Option Nat) : SecState × Option PcgpRelocs :=
  let st := match rel with
    | none => st
    | some i => setInfo st i .none
  riscvRelaxDeleteBytes info st addr count p 0 st.size

def Rela.isDelete (r : Rela) : Bool := r.type = .delete

/-- The inner loop: the first mark from `start` on whose offset is beyond `offset`. -/
def findNextDelete (relocs : List Rela) (start : Nat) (offset : Vma) : Option Nat :=
  ((relocs.drop start).findIdx? fun r => r.isDelete && offset < r.offset).map (start + ·)

/-- One round of the outer loop, without its bookkeeping: delete the range of the mark `rel` at
index `i`, then clear the mark. -/
def resolveMark (info : SecInfo) (st : SecState) (i : Nat) (rel : Rela) (deleteTotal toaddr : Vma) : SecState :=
  setInfo (riscvRelaxDeleteBytes info st rel.offset rel.addend none deleteTotal toaddr).1 i .none

/-- The outer loop of `riscv_relax_resolve_delete_relocs`, at index `i`.  Every round moves on by at
least one relocation, so `fuel` counts the relocations left. -/
def resolveDeleteLoop (info : SecInfo) : (fuel : Nat) → (deleteTotal : Vma) → (i : Nat) → SecState → SecState
  | 0, _, _, st => st
  | fuel + 1, deleteTotal, i, st =>
    match st.relocs[i]? with
    | none => st
    | some rel =>
      if rel.isDelete then
        match findNextDelete st.relocs i rel.offset with
        | none => resolveMark info st i rel deleteTotal st.size
        | some j =>
          let toaddr := (st.relocs[j]?.map (·.offset)).getD st.size
          resolveDeleteLoop info fuel (deleteTotal + rel.addend) j (resolveMark info st i rel deleteTotal toaddr)
      else resolveDeleteLoop info fuel deleteTotal (i + 1) st

/-- `riscv_relax_resolve_delete_relocs`. -/
def riscvRelaxResolveDeleteRelocs (info : SecInfo) (st : SecState) : SecState :=
  resolveDeleteLoop info st.relocs.length 0 0 st

/-! ## One deletion after another

The schedule the sweep replaces: at each mark, in the order of the relocations, call
`_riscv_relax_delete_immediate` on its range. -/

def deleteMarkImmediate (info : SecInfo) (st : SecState) (i : Nat) : SecState :=
  match st.relocs[i]? with
  | none => st
  | some rel =>
    if rel.isDelete then (riscvRelaxDeleteImmediate info st rel.offset rel.addend none (some i)).1 else st

def deleteMarksImmediate (info : SecInfo) (st : SecState) : SecState :=
  (List.range st.relocs.length).foldl (deleteMarkImmediate info) st

/-! ## What one deletion does -/

theorem deleteBytes_size (info : SecInfo) (st : SecState) (addr count : Vma) (p : Option PcgpRelocs)
    (deleteTotal toaddr : Vma) :
    (riscvRelaxDeleteBytes info st addr count p deleteTotal toaddr).1.size = st.size - count := rfl

/-- The adjustments run up to the old size, whatever `toaddr` the caller passes. -/
theorem deleteBytes_relocs (info : SecInfo) (st : SecState) (addr count : Vma) (p : Option PcgpRelocs)
    (deleteTotal toaddr : Vma) :
    (riscvRelaxDeleteBytes info st addr count p deleteTotal toaddr).1.relocs =
      st.relocs.map (adjustRela addr count st.size) := by
  simp only [riscvRelaxDeleteBytes, BitVec.sub_add_cancel]

theorem deleteBytes_locals (info : SecInfo) (st : SecState) (addr count : Vma) (p : Option PcgpRelocs)
    (deleteTotal toaddr : Vma) :
    (riscvRelaxDeleteBytes info st addr count p deleteTotal toaddr).1.locals =
      st.locals.map (adjustLocal info addr count st.size) := by
  simp only [riscvRelaxDeleteBytes, BitVec.sub_add_cancel]

theorem deleteBytes_hashes (info : SecInfo) (st : SecState) (addr count : Vma) (p : Option PcgpRelocs)
    (deleteTotal toaddr : Vma) :
    (riscvRelaxDeleteBytes info st addr count p deleteTotal toaddr).1.hashes =
      adjustHashes info addr count st.size [] info.symHashes st.hashes := by
  simp only [riscvRelaxDeleteBytes, BitVec.sub_add_cancel]

theorem deleteBytes_contents (info : SecInfo) (st : SecState) (addr count : Vma) (p : Option PcgpRelocs)
    (deleteTotal toaddr : Vma) (hsrc : addr.toNat + count.toNat + deleteTotal.toNat < 2 ^ 64)
    (hto : addr.toNat + count.toNat ≤ toaddr.toNat) :
    (riscvRelaxDeleteBytes info st addr count p deleteTotal toaddr).1.contents =
      memmove st.contents addr.toNat (addr.toNat + count.toNat + deleteTotal.toNat)
        (toaddr.toNat - addr.toNat - count.toNat) := by
  have h1 : (addr + count + deleteTotal).toNat = addr.toNat + count.toNat + deleteTotal.toNat := by
    simp only [BitVec.toNat_add]
    omega
  have h2 : (toaddr - addr - count).toNat = toaddr.toNat - addr.toNat - count.toNat := by
    simp only [BitVec.toNat_sub]
    omega
  simp only [riscvRelaxDeleteBytes, h1, h2]

/-- With nothing deleted before, the whole tail moves down. -/
theorem deleteBytes_contents_whole (info : SecInfo) (st : SecState) (addr count : Vma) (p : Option PcgpRelocs)
    (h : addr.toNat + count.toNat ≤ st.size.toNat) :
    (riscvRelaxDeleteBytes info st addr count p 0 st.size).1.contents =
      memmove st.contents addr.toNat (addr.toNat + count.toNat) (st.size.toNat - addr.toNat - count.toNat) := by
  have hz : (0 : Vma).toNat = 0 := rfl
  rw [deleteBytes_contents _ _ _ _ _ _ _ (by omega) h, hz, Nat.add_zero]

/-- Clearing a mark and moving relocations do not disturb each other. -/
theorem map_adjustRela_modify (addr count toaddr : Vma) (relocs : List Rela) (i : Nat) (type : RelocType) :
    (relocs.map (adjustRela addr count toaddr)).modify i (fun r => { r with sym := 0, type }) =
      (relocs.modify i (fun r => { r with sym := 0, type })).map (adjustRela addr count toaddr) := by
  apply List.ext_getElem?
  intro k
  simp only [List.getElem?_modify, List.getElem?_map]
  cases relocs[k]? with
  | none => split <;> rfl
  | some r =>
    by_cases hk : i = k
    · simp only [hk, if_true, Option.map_eq_map, Option.map_some, adjustRela]
      split <;> rfl
    · simp only [hk, if_false, Option.map_eq_map, Option.map_some]

/-! ## The marks still to be resolved -/

/-- The marks from index `i` on lie in order inside the section, and the buffer still holds the
`width` garbage bytes the earlier deletions left behind. -/
structure Pending (st : SecState) (i width : Nat) : Prop where
  pos : ∀ j r, i ≤ j → st.relocs[j]? = some r → r.isDelete → 0 < r.addend.toNat
  inside : ∀ j r, i ≤ j → st.relocs[j]? = some r → r.isDelete →
    r.offset.toNat + r.addend.toNat ≤ st.size.toNat
  ordered : ∀ j k r r', i ≤ j → j < k → st.relocs[j]? = some r → st.relocs[k]? = some r' →
    r.isDelete → r'.isDelete → r.offset.toNat + r.addend.toNat ≤ r'.offset.toNat
  room : st.size.toNat + width ≤ st.contents.length
  small : st.size.toNat + width < 2 ^ 64

/-- No mark at an index in `[i, j)`. -/
def NoMark (relocs : List Rela) (i j : Nat) : Prop :=
  ∀ k r, i ≤ k → k < j → relocs[k]? = some r → r.isDelete = false

theorem Pending.mono {st : SecState} {i j width : Nat} (h : Pending st i width) (hij : i ≤ j) :
    Pending st j width where
  pos := fun k r hk => h.pos k r (le_trans hij hk)
  inside := fun k r hk => h.inside k r (le_trans hij hk)
  ordered := fun k l r r' hk => h.ordered k l r r' (le_trans hij hk)
  room := h.room
  small := h.small

theorem findNextDelete_none {relocs : List Rela} {i : Nat} {rel : Rela}
    (hlater : ∀ k r, i < k → relocs[k]? = some r → r.isDelete → rel.offset < r.offset)
    (h : findNextDelete relocs i rel.offset = none) : NoMark relocs (i + 1) relocs.length := by
  intro k r hk hlt hr
  simp only [findNextDelete, Option.map_eq_none_iff, List.findIdx?_eq_none_iff] at h
  have hmem : r ∈ relocs.drop i := by
    apply List.mem_of_getElem? (i := k - i)
    rw [List.getElem?_drop, ← hr]
    congr 1
    omega
  have hcond := h r hmem
  cases hd : r.isDelete with
  | false => rfl
  | true => simp [hd, hlater k r hk hr hd] at hcond

/-- The inner loop stops at the next mark. -/
theorem findNextDelete_some {relocs : List Rela} {i j : Nat} {rel : Rela} (hrel : relocs[i]? = some rel)
    (hlater : ∀ k r, i < k → relocs[k]? = some r → r.isDelete → rel.offset < r.offset)
    (h : findNextDelete relocs i rel.offset = some j) :
    ∃ r, i < j ∧ relocs[j]? = some r ∧ r.isDelete ∧ rel.offset < r.offset ∧ NoMark relocs (i + 1) j := by
  simp only [findNextDelete, Option.map_eq_some_iff] at h
  obtain ⟨n, hn, rfl⟩ := h
  rw [List.findIdx?_eq_some_iff_getElem] at hn
  obtain ⟨hlen, hp, hbefore⟩ := hn
  rw [List.getElem_drop] at hp
  simp only [Bool.and_eq_true, decide_eq_true_eq] at hp
  rw [List.length_drop] at hlen
  have hget : relocs[i + n]? = some relocs[i + n] := List.getElem?_eq_getElem (by omega)
  have hn0 : n ≠ 0 := by
    rintro rfl
    have : relocs[i + 0] = rel := Option.some.inj (hget.symm.trans hrel)
    rw [this] at hp
    exact absurd hp.2 (BitVec.lt_irrefl _)
  refine ⟨relocs[i + n], by omega, hget, hp.1, hp.2, ?_⟩
  intro k r hk hlt hr
  have hb := hbefore (k - i) (by omega)
  rw [List.getElem_drop] at hb
  have hk' : relocs[i + (k - i)]? = some r := by
    rw [← hr]
    congr 1
    omega
  rw [List.getElem?_eq_getElem (by omega)] at hk'
  rw [Option.some.inj hk'] at hb
  cases hd : r.isDelete with
  | false => rfl
  | true => simp [hd, hlater k r (by omega) hr hd] at hb

/-! ## The sweep and the deletions, step by step -/

@[simp] theorem adjustRela_type (addr count toaddr : Vma) (r : Rela) :
    (adjustRela addr count toaddr r).type = r.type := by
  unfold adjustRela; split <;> rfl

@[simp] theorem adjustRela_addend (addr count toaddr : Vma) (r : Rela) :
    (adjustRela addr count toaddr r).addend = r.addend := by
  unfold adjustRela; split <;> rfl

@[simp] theorem adjustRela_isDelete (addr count toaddr : Vma) (r : Rela) :
    (adjustRela addr count toaddr r).isDelete = r.isDelete := by
  simp [Rela.isDelete]

theorem adjustRela_offset_of_between {addr count toaddr : Vma} {r : Rela} (h : addr < r.offset)
    (h' : r.offset < toaddr) (hc : count.toNat ≤ r.offset.toNat) :
    (adjustRela addr count toaddr r).offset.toNat = r.offset.toNat - count.toNat := by
  rw [adjustRela, if_pos ⟨h, h'⟩, BitVec.toNat_sub]
  omega

section Step

variable {info : SecInfo} {st t : SecState} {i width : Nat} {rel : Rela} {deleteTotal toaddr : Vma}

theorem resolveMark_size (st : SecState) : (resolveMark info st i rel deleteTotal toaddr).size = st.size - rel.addend :=
  rfl

/-- The relocations after the step, looked up by index. -/
theorem resolveMark_relocs (k : Nat) : (resolveMark info st i rel deleteTotal toaddr).relocs[k]? =
    st.relocs[k]?.map fun r =>
      if i = k then { adjustRela rel.offset rel.addend st.size r with sym := 0, type := .none }
      else adjustRela rel.offset rel.addend st.size r := by
  simp only [resolveMark, setInfo, deleteBytes_relocs, List.getElem?_modify, List.getElem?_map]
  cases st.relocs[k]? <;> by_cases hk : i = k <;> simp [hk]

/-- A mark that is still there after the step was there before, later in the list. -/
theorem resolveMark_mark {k : Nat} {r' : Rela}
    (hr : (resolveMark info st i rel deleteTotal toaddr).relocs[k]? = some r') (hd : r'.isDelete) :
    ∃ r, i ≠ k ∧ st.relocs[k]? = some r ∧ r.isDelete ∧ r' = adjustRela rel.offset rel.addend st.size r := by
  rw [resolveMark_relocs, Option.map_eq_some_iff] at hr
  obtain ⟨r, hr, rfl⟩ := hr
  by_cases hk : i = k
  · simp [hk, Rela.isDelete] at hd
  · rw [if_neg hk] at hd ⊢
    exact ⟨r, hk, hr, by simpa using hd, rfl⟩

/-- Marks after the resolved one move down by its length. -/
theorem Pending.offset_after (h : Pending st i width) (hrel : st.relocs[i]? = some rel) (hd : rel.isDelete)
    {k : Nat} {r : Rela} (hk : i < k) (hr : st.relocs[k]? = some r) (hdr : r.isDelete) :
    (adjustRela rel.offset rel.addend st.size r).offset.toNat = r.offset.toNat - rel.addend.toNat := by
  have hord := h.ordered i k rel r le_rfl hk hrel hr hd hdr
  have hpos := h.pos i rel le_rfl hrel hd
  have hposr := h.pos k r hk.le hr hdr
  have hin := h.inside k r hk.le hr hdr
  apply adjustRela_offset_of_between
  · rw [BitVec.lt_def]; omega
  · rw [BitVec.lt_def]; omega
  · omega

theorem Pending.step (h : Pending st i deleteTotal.toNat) (hrel : st.relocs[i]? = some rel) (hd : rel.isDelete)
    (hto : rel.offset.toNat + rel.addend.toNat ≤ toaddr.toNat) (hto' : toaddr.toNat ≤ st.size.toNat) :
    Pending (resolveMark info st i rel deleteTotal toaddr) (i + 1) (deleteTotal + rel.addend).toNat := by
  have hin := h.inside i rel le_rfl hrel hd
  have hsize : (st.size - rel.addend).toNat = st.size.toNat - rel.addend.toNat := by
    rw [BitVec.toNat_sub]; omega
  have htotal : (deleteTotal + rel.addend).toNat = deleteTotal.toNat + rel.addend.toNat := by
    have := h.small
    rw [BitVec.toNat_add]; omega
  have hroom := h.room
  have hsmall := h.small
  constructor
  · intro j r' hj hr' hd'
    obtain ⟨r, -, hr, hdr, rfl⟩ := resolveMark_mark hr' hd'
    rw [adjustRela_addend]
    exact h.pos j r (by omega) hr hdr
  · intro j r' hj hr' hd'
    obtain ⟨r, -, hr, hdr, rfl⟩ := resolveMark_mark hr' hd'
    have hinr := h.inside j r (by omega) hr hdr
    have hord := h.ordered i j rel r le_rfl (by omega) hrel hr hd hdr
    rw [adjustRela_addend, h.offset_after hrel hd (by omega) hr hdr, resolveMark_size, hsize]
    omega
  · intro j k r' s' hj hjk hr' hs' hdr' hds'
    obtain ⟨r, -, hr, hdr, rfl⟩ := resolveMark_mark hr' hdr'
    obtain ⟨s, -, hs, hds, rfl⟩ := resolveMark_mark hs' hds'
    have hord := h.ordered j k r s (by omega) hjk hr hs hdr hds
    have hordr := h.ordered i j rel r le_rfl (by omega) hrel hr hd hdr
    rw [adjustRela_addend, h.offset_after hrel hd (by omega) hr hdr,
      h.offset_after hrel hd (by omega) hs hds]
    omega
  · rw [resolveMark_size, hsize, htotal]
    have hlen : (resolveMark info st i rel deleteTotal toaddr).contents.length = st.contents.length := by
      rw [resolveMark, setInfo, deleteBytes_contents info st _ _ _ _ _ (by omega) hto,
        memmove_length (by omega) (by omega)]
    omega
  · rw [resolveMark_size, hsize, htotal]
    omega

/-- The sweep (`st`) and the one-by-one schedule (`t`) at index `i`, when the sweep has left `width`
garbage bytes in front of the mark there. -/
structure Agree (st t : SecState) (i width : Nat) : Prop where
  size : st.size = t.size
  relocs : st.relocs = t.relocs
  locals : st.locals = t.locals
  hashes : st.hashes = t.hashes
  room : t.size.toNat ≤ t.contents.length
  contents : ∀ r, st.relocs[i]? = some r → r.isDelete →
    closeGap st.contents r.offset.toNat width st.size.toNat = t.contents.take t.size.toNat
  contents_zero : width = 0 → st.contents.take st.size.toNat = t.contents.take t.size.toNat

theorem deleteMarkImmediate_of_mark (hrel : t.relocs[i]? = some rel) (hd : rel.isDelete) :
    deleteMarkImmediate info t i =
      (riscvRelaxDeleteBytes info (setInfo t i .none) rel.offset rel.addend none 0 t.size).1 := by
  simp only [deleteMarkImmediate, hrel, hd, if_true, riscvRelaxDeleteImmediate, setInfo]

theorem deleteMarkImmediate_contents (hrel : t.relocs[i]? = some rel) (hd : rel.isDelete)
    (h : rel.offset.toNat + rel.addend.toNat ≤ t.size.toNat) :
    (deleteMarkImmediate info t i).contents =
      memmove t.contents rel.offset.toNat (rel.offset.toNat + rel.addend.toNat)
        (t.size.toNat - rel.offset.toNat - rel.addend.toNat) := by
  rw [deleteMarkImmediate_of_mark hrel hd]
  exact deleteBytes_contents_whole info (setInfo t i .none) rel.offset rel.addend none h

variable (info) in
/-- The bytes after one step: the sweep's gap is now in front of `toaddr`. -/
theorem Agree.contents_step (ha : Agree st t i deleteTotal.toNat) (hp : Pending st i deleteTotal.toNat)
    (hrel : st.relocs[i]? = some rel) (hd : rel.isDelete)
    (hto : rel.offset.toNat + rel.addend.toNat ≤ toaddr.toNat) (hto' : toaddr.toNat ≤ st.size.toNat) :
    closeGap (resolveMark info st i rel deleteTotal toaddr).contents (toaddr.toNat - rel.addend.toNat)
        (deleteTotal.toNat + rel.addend.toNat) (st.size.toNat - rel.addend.toNat) =
      (deleteMarkImmediate info t i).contents.take (t.size.toNat - rel.addend.toNat) := by
  have hin := hp.inside i rel le_rfl hrel hd
  have hsmall := hp.small
  have hsize := ha.size
  have hroom := ha.room
  have hin' : rel.offset.toNat + rel.addend.toNat ≤ t.size.toNat := hsize ▸ hin
  rw [deleteMarkImmediate_contents (ha.relocs ▸ hrel) hd hin', memmove_take_excise hin' hroom, resolveMark,
    setInfo, deleteBytes_contents _ _ _ _ _ _ _ (by omega) hto, closeGap_memmove hto hto' hp.room,
    ha.contents rel hrel hd]

theorem Agree.step (ha : Agree st t i deleteTotal.toNat) (hp : Pending st i deleteTotal.toNat)
    (hrel : st.relocs[i]? = some rel) (hd : rel.isDelete)
    (hto : rel.offset.toNat + rel.addend.toNat ≤ toaddr.toNat) (hto' : toaddr.toNat ≤ st.size.toNat) {j : Nat}
    (hnext : ∀ r, (resolveMark info st i rel deleteTotal toaddr).relocs[j]? = some r → r.isDelete →
      r.offset.toNat = toaddr.toNat - rel.addend.toNat) :
    Agree (resolveMark info st i rel deleteTotal toaddr) (deleteMarkImmediate info t i) j
      (deleteTotal + rel.addend).toNat := by
  have hrel' : t.relocs[i]? = some rel := ha.relocs ▸ hrel
  have hin := hp.inside i rel le_rfl hrel hd
  have hpos := hp.pos i rel le_rfl hrel hd
  have hsmall := hp.small
  have hst : (st.size - rel.addend).toNat = st.size.toNat - rel.addend.toNat := by
    rw [BitVec.toNat_sub]; omega
  have htotal : (deleteTotal + rel.addend).toNat = deleteTotal.toNat + rel.addend.toNat := by
    rw [BitVec.toNat_add]; omega
  have hcontents := ha.contents_step info hp hrel hd hto hto'
  have hroom := ha.room
  have htsize : t.size = st.size := ha.size.symm
  have hsize' : (deleteMarkImmediate info t i).size = st.size - rel.addend := by
    rw [deleteMarkImmediate_of_mark hrel' hd, deleteBytes_size, setInfo, htsize]
  constructor
  · rw [resolveMark_size, hsize']
  · rw [deleteMarkImmediate_of_mark hrel' hd, deleteBytes_relocs, resolveMark, setInfo, deleteBytes_relocs,
      map_adjustRela_modify, setInfo, htsize, ha.relocs]
  · rw [deleteMarkImmediate_of_mark hrel' hd, deleteBytes_locals, resolveMark, setInfo, deleteBytes_locals,
      setInfo, htsize, ha.locals]
  · rw [deleteMarkImmediate_of_mark hrel' hd, deleteBytes_hashes, resolveMark, setInfo, deleteBytes_hashes,
      setInfo, htsize, ha.hashes]
  · rw [htsize] at hroom
    have hlen : (deleteMarkImmediate info t i).contents.length = t.contents.length := by
      rw [deleteMarkImmediate_contents hrel' hd (htsize ▸ hin), htsize, memmove_length (by omega) (by omega)]
    rw [hsize', hst, hlen]
    omega
  · intro r hr hdr
    rw [hnext r hr hdr, resolveMark_size, hsize', hst, htotal, hcontents, htsize]
  · intro hzero
    omega

/-- A step makes no new marks, and clears the one it resolves. -/
theorem resolveMark_noMark {a b : Nat}
    (h : ∀ k r, a ≤ k → k < b → k ≠ i → st.relocs[k]? = some r → r.isDelete = false) :
    NoMark (resolveMark info st i rel deleteTotal toaddr).relocs a b := by
  intro k r' ha hb hr'
  cases hd : r'.isDelete with
  | false => rfl
  | true =>
    obtain ⟨r, hik, hr, hdr, rfl⟩ := resolveMark_mark hr' hd
    rw [h k r ha hb (Ne.symm hik) hr] at hdr
    exact absurd hdr (by decide)

theorem resolveMark_length :
    (resolveMark info st i rel deleteTotal toaddr).relocs.length = st.relocs.length := by
  rw [resolveMark, setInfo, List.length_modify, deleteBytes_relocs, List.length_map]

end Step

/-! ## The whole sweep -/

theorem foldl_deleteMarkImmediate_skip (info : SecInfo) {t : SecState} {n : Nat} :
    ∀ {i : Nat}, NoMark t.relocs i (i + n) → ∀ m,
      (List.range' i (n + m)).foldl (deleteMarkImmediate info) t =
        (List.range' (i + n) m).foldl (deleteMarkImmediate info) t := by
  induction n with
  | zero => intro i _ m; simp
  | succ n ih =>
    intro i h m
    have hskip : deleteMarkImmediate info t i = t := by
      unfold deleteMarkImmediate
      cases hr : t.relocs[i]? with
      | none => rfl
      | some r => simp [h i r le_rfl (by omega) hr]
    have hrest : NoMark t.relocs (i + 1) (i + 1 + n) :=
      fun k r hk hlt => h k r (by omega) (by omega)
    rw [show n + 1 + m = (n + m) + 1 by omega, List.range'_succ, List.foldl_cons, hskip, ih hrest m,
      show i + 1 + n = i + (n + 1) by omega]

/-- The two schedules end in the same section, and no mark is left. -/
structure SameResult (a b : SecState) : Prop where
  size : a.size = b.size
  contents : a.contents.take a.size.toNat = b.contents.take b.size.toNat
  relocs : a.relocs = b.relocs
  locals : a.locals = b.locals
  hashes : a.hashes = b.hashes
  consumed : ∀ r ∈ a.relocs, r.type ≠ .delete

/-- Nothing left to resolve: what agrees so far is the result. -/
theorem Agree.sameResult {st t : SecState} {i : Nat} (ha : Agree st t i 0)
    (h : NoMark st.relocs 0 st.relocs.length) : SameResult st t where
  size := ha.size
  contents := ha.contents_zero rfl
  relocs := ha.relocs
  locals := ha.locals
  hashes := ha.hashes
  consumed := by
    intro r hr
    obtain ⟨k, hk, rfl⟩ := List.getElem_of_mem hr
    have := h k _ (Nat.zero_le _) hk (List.getElem?_eq_getElem hk)
    simpa [Rela.isDelete] using this

section Loop

variable {info : SecInfo} {st t : SecState} {i fuel : Nat} {rel : Rela} {deleteTotal : Vma}

theorem resolveDeleteLoop_other (hrel : st.relocs[i]? = some rel) (hd : rel.isDelete = false) :
    resolveDeleteLoop info (fuel + 1) deleteTotal i st = resolveDeleteLoop info fuel deleteTotal (i + 1) st := by
  simp [resolveDeleteLoop, hrel, hd]

theorem resolveDeleteLoop_last (hrel : st.relocs[i]? = some rel) (hd : rel.isDelete)
    (hnext : findNextDelete st.relocs i rel.offset = none) :
    resolveDeleteLoop info (fuel + 1) deleteTotal i st = resolveMark info st i rel deleteTotal st.size := by
  simp [resolveDeleteLoop, hrel, hd, hnext]

theorem resolveDeleteLoop_next {j : Nat} {r : Rela} (hrel : st.relocs[i]? = some rel) (hd : rel.isDelete)
    (hnext : findNextDelete st.relocs i rel.offset = some j) (hr : st.relocs[j]? = some r) :
    resolveDeleteLoop info (fuel + 1) deleteTotal i st =
      resolveDeleteLoop info fuel (deleteTotal + rel.addend) j (resolveMark info st i rel deleteTotal r.offset) := by
  simp [resolveDeleteLoop, hrel, hd, hnext, hr]

variable (info) in
/-- The one-by-one schedule from a mark to the next: one deletion, then relocations to skip. -/
theorem foldl_deleteMarkImmediate_next {j : Nat} (hij : i < j) (hj : j ≤ t.relocs.length)
    (hno : NoMark (deleteMarkImmediate info t i).relocs (i + 1) j) :
    (List.range' i (t.relocs.length - i)).foldl (deleteMarkImmediate info) t =
      (List.range' j (t.relocs.length - j)).foldl (deleteMarkImmediate info) (deleteMarkImmediate info t i) := by
  have hn : t.relocs.length - i = ((j - (i + 1)) + (t.relocs.length - j)) + 1 := by omega
  have hj' : i + 1 + (j - (i + 1)) = j := by omega
  rw [hn, List.range'_succ, List.foldl_cons, foldl_deleteMarkImmediate_skip info (hj'.symm ▸ hno), hj']

/-- The last mark: the sweep moves the whole rest down, and is done. -/
theorem resolveMark_last_sameResult (hp : Pending st i deleteTotal.toNat) (ha : Agree st t i deleteTotal.toNat)
    (hrel : st.relocs[i]? = some rel) (hd : rel.isDelete) (hbelow : NoMark st.relocs 0 i)
    (habove : NoMark st.relocs (i + 1) st.relocs.length) :
    SameResult (resolveMark info st i rel deleteTotal st.size)
      ((List.range' i (st.relocs.length - i)).foldl (deleteMarkImmediate info) t) := by
  have hi : i < st.relocs.length := (List.getElem?_eq_some_iff.mp hrel).1
  have hin := hp.inside i rel le_rfl hrel hd
  have hno : NoMark (resolveMark info st i rel deleteTotal st.size).relocs 0 st.relocs.length := by
    apply resolveMark_noMark
    intro k r _ hk hne hr
    rcases Nat.lt_or_gt_of_ne hne with h | h
    · exact hbelow k r (Nat.zero_le _) h hr
    · exact habove k r h hk hr
  have hstep : Agree (resolveMark info st i rel deleteTotal st.size) (deleteMarkImmediate info t i)
      st.relocs.length (deleteTotal + rel.addend).toNat := by
    apply ha.step hp hrel hd hin le_rfl
    intro r hr
    rw [List.getElem?_eq_none (by rw [resolveMark_length])] at hr
    exact absurd hr (by simp)
  have hcontents := ha.contents_step info hp hrel hd hin le_rfl
  have hst : (st.size - rel.addend).toNat = st.size.toNat - rel.addend.toNat := by
    rw [BitVec.toNat_sub]; omega
  have hfold : (List.range' i (st.relocs.length - i)).foldl (deleteMarkImmediate info) t =
      deleteMarkImmediate info t i := by
    rw [ha.relocs, foldl_deleteMarkImmediate_next info (j := t.relocs.length) (ha.relocs ▸ hi) le_rfl]
    · simp
    · rw [← hstep.relocs, ← ha.relocs]
      exact fun k r hk => hno k r (Nat.zero_le _)
  rw [hfold]
  refine ⟨hstep.size, ?_, hstep.relocs, hstep.locals, hstep.hashes, ?_⟩
  · rw [← hstep.size, resolveMark_size, hst]
    rw [closeGap_end, ← ha.size] at hcontents
    exact hcontents
  · intro r hr
    obtain ⟨k, hk, rfl⟩ := List.getElem_of_mem hr
    have := hno k _ (Nat.zero_le _) (by rwa [resolveMark_length] at hk) (List.getElem?_eq_getElem hk)
    simpa [Rela.isDelete] using this

/-- Nothing is deleted yet where the sweep is not at a mark. -/
theorem deleteTotal_eq_zero (hat : deleteTotal.toNat = 0 ∨ ∃ r, st.relocs[i]? = some r ∧ r.isDelete)
    (hno : ∀ r, st.relocs[i]? = some r → r.isDelete = false) : deleteTotal.toNat = 0 := by
  rcases hat with h | ⟨r, hr, hdr⟩
  · exact h
  · rw [hno r hr] at hdr
    exact absurd hdr (by decide)

/-- Without a gap it does not matter where the gap is. -/
theorem Agree.move (ha : Agree st t i 0) (hp : Pending st i 0) {j : Nat} (hij : i ≤ j) : Agree st t j 0 := by
  refine ⟨ha.size, ha.relocs, ha.locals, ha.hashes, ha.room, fun r hr hdr => ?_, ha.contents_zero⟩
  have hin := hp.inside j r hij hr hdr
  rw [closeGap_zero (by omega)]
  exact ha.contents_zero rfl

/-- From a mark to the next one: the gap is moved in front of it, and the one-by-one schedule is there too. -/
theorem resolveMark_next (hp : Pending st i deleteTotal.toNat) (ha : Agree st t i deleteTotal.toNat)
    (hrel : st.relocs[i]? = some rel) (hd : rel.isDelete) {j : Nat} {r : Rela} (hij : i < j)
    (hr : st.relocs[j]? = some r) (hdr : r.isDelete) (hbelow : NoMark st.relocs 0 i)
    (hgap : NoMark st.relocs (i + 1) j) :
    Agree (resolveMark info st i rel deleteTotal r.offset) (deleteMarkImmediate info t i) j
        (deleteTotal + rel.addend).toNat ∧
      (∃ r', (resolveMark info st i rel deleteTotal r.offset).relocs[j]? = some r' ∧ r'.isDelete) ∧
      NoMark (resolveMark info st i rel deleteTotal r.offset).relocs 0 j ∧
      (List.range' i (st.relocs.length - i)).foldl (deleteMarkImmediate info) t =
        (List.range' j (st.relocs.length - j)).foldl (deleteMarkImmediate info) (deleteMarkImmediate info t i) := by
  have hj : j < st.relocs.length := (List.getElem?_eq_some_iff.mp hr).1
  have hord := hp.ordered i j rel r le_rfl hij hrel hr hd hdr
  have hin := hp.inside j r hij.le hr hdr
  have hmark : (resolveMark info st i rel deleteTotal r.offset).relocs[j]? =
      some (adjustRela rel.offset rel.addend st.size r) := by
    rw [resolveMark_relocs, hr, Option.map_some, if_neg (by omega)]
  have hstep : Agree (resolveMark info st i rel deleteTotal r.offset) (deleteMarkImmediate info t i) j
      (deleteTotal + rel.addend).toNat := by
    apply ha.step hp hrel hd hord (by omega)
    intro r' hr' _
    rw [hmark, Option.some.injEq] at hr'
    rw [← hr', hp.offset_after hrel hd hij hr hdr]
  have hgap' : NoMark (resolveMark info st i rel deleteTotal r.offset).relocs (i + 1) j :=
    resolveMark_noMark fun k r hk hlt _ hr => hgap k r hk hlt hr
  have hlen : t.relocs.length = st.relocs.length := by rw [ha.relocs]
  have hfold := foldl_deleteMarkImmediate_next info (t := t) hij (by omega) (hstep.relocs ▸ hgap')
  rw [hlen] at hfold
  refine ⟨hstep, ⟨_, hmark, by simpa using hdr⟩, ?_, hfold⟩
  apply resolveMark_noMark
  intro k r _ hk hne hr
  rcases Nat.lt_or_gt_of_ne hne with h | h
  · exact hbelow k r (Nat.zero_le _) h hr
  · exact hgap k r h hk hr

end Loop

/-- From any index on.  The sweep is at a mark whenever it has bytes to close up, so the gap is
always in front of the mark at `i`. -/
theorem resolveDeleteLoop_sameResult (info : SecInfo) :
    ∀ (fuel : Nat) (deleteTotal : Vma) (i : Nat) (st t : SecState),
      Pending st i deleteTotal.toNat → Agree st t i deleteTotal.toNat →
      (deleteTotal.toNat = 0 ∨ ∃ r, st.relocs[i]? = some r ∧ r.isDelete) →
      st.relocs.length ≤ i + fuel → NoMark st.relocs 0 i →
      SameResult (resolveDeleteLoop info fuel deleteTotal i st)
        ((List.range' i (st.relocs.length - i)).foldl (deleteMarkImmediate info) t) := by
  intro fuel
  induction fuel with
  | zero =>
    intro deleteTotal i st t _ ha hat hlen hno
    have hzero := deleteTotal_eq_zero hat fun r hr => by
      rw [List.getElem?_eq_none (by omega)] at hr
      cases hr
    rw [hzero] at ha
    rw [show st.relocs.length - i = 0 by omega]
    exact ha.sameResult fun k r hk hlt => hno k r hk (by omega)
  | succ fuel ih =>
    intro deleteTotal i st t hp ha hat hlen hno
    cases hrel : st.relocs[i]? with
    | none =>
      have hzero := deleteTotal_eq_zero hat fun r hr => by
        rw [hrel] at hr
        cases hr
      have hge := List.getElem?_eq_none_iff.mp hrel
      rw [hzero] at ha
      rw [show st.relocs.length - i = 0 by omega, resolveDeleteLoop, hrel]
      exact ha.sameResult fun k r hk hlt => hno k r hk (by omega)
    | some rel =>
      have hi : i < st.relocs.length := (List.getElem?_eq_some_iff.mp hrel).1
      cases hd : rel.isDelete with
      | false =>
        -- an ordinary relocation: only before the first mark, so nothing is deleted yet
        have hzero := deleteTotal_eq_zero hat fun r hr => by
          rw [hrel, Option.some.injEq] at hr
          rw [← hr, hd]
        have hno' : NoMark st.relocs 0 (i + 1) := by
          intro k r hk hlt hr
          rcases Nat.lt_succ_iff_lt_or_eq.mp hlt with h | rfl
          · exact hno k r hk h hr
          · rw [hrel, Option.some.injEq] at hr
            rw [← hr]
            exact hd
        have hskip := foldl_deleteMarkImmediate_skip info (t := t) (i := i) (n := 1)
          (fun k r hk hlt hr => hno' k r (Nat.zero_le _) hlt (ha.relocs ▸ hr)) (st.relocs.length - (i + 1))
        rw [show 1 + (st.relocs.length - (i + 1)) = st.relocs.length - i by omega] at hskip
        rw [resolveDeleteLoop_other hrel hd, hskip]
        refine ih deleteTotal (i + 1) st t (hp.mono (by omega)) ?_ (.inl hzero) (by omega) hno'
        rw [hzero] at ha hp ⊢
        exact ha.move hp (by omega)
      | true =>
        have hlater : ∀ k r, i < k → st.relocs[k]? = some r → r.isDelete → rel.offset < r.offset := by
          intro k r hk hr hdr
          have hord := hp.ordered i k rel r le_rfl hk hrel hr hd hdr
          have hpos := hp.pos i rel le_rfl hrel hd
          rw [BitVec.lt_def]
          omega
        cases hnext : findNextDelete st.relocs i rel.offset with
        | none =>
          rw [resolveDeleteLoop_last hrel hd hnext]
          exact resolveMark_last_sameResult hp ha hrel hd hno (findNextDelete_none hlater hnext)
        | some j =>
          obtain ⟨r, hij, hr, hdr, hlt, hgap⟩ := findNextDelete_some hrel hlater hnext
          have hord := hp.ordered i j rel r le_rfl hij hrel hr hd hdr
          have hin := hp.inside j r hij.le hr hdr
          obtain ⟨hstep, hmark, hbelow, hfold⟩ :=
            @resolveMark_next info st t i rel deleteTotal hp ha hrel hd j r hij hr hdr hno hgap
          rw [resolveDeleteLoop_next hrel hd hnext hr, hfold]
          have hrun := ih (deleteTotal + rel.addend) j (resolveMark info st i rel deleteTotal r.offset)
            (deleteMarkImmediate info t i) ((hp.step hrel hd hord (by omega)).mono hij) hstep (.inr hmark)
            (by rw [resolveMark_length]; omega) hbelow
          rwa [resolveMark_length] at hrun

/-- What pass 0 leaves behind: relocations in the order of their offsets, some of them marks whose
ranges are nonempty, disjoint, and inside the section. -/
structure Marked (st : SecState) : Prop where
  sorted : st.relocs.Pairwise fun r s => r.offset ≤ s.offset
  disjoint : st.relocs.Pairwise fun r s => r.isDelete → s.isDelete →
    r.offset.toNat + r.addend.toNat ≤ s.offset.toNat ∨ s.offset.toNat + s.addend.toNat ≤ r.offset.toNat
  pos : ∀ r ∈ st.relocs, r.isDelete → 0 < r.addend.toNat
  inside : ∀ r ∈ st.relocs, r.isDelete → r.offset.toNat + r.addend.toNat ≤ st.size.toNat
  room : st.size.toNat ≤ st.contents.length

theorem Marked.pending {st : SecState} (h : Marked st) : Pending st 0 0 where
  pos := fun _ _ _ hr => h.pos _ (List.mem_of_getElem? hr)
  inside := fun _ _ _ hr => h.inside _ (List.mem_of_getElem? hr)
  room := h.room
  small := by have := st.size.isLt; omega
  ordered := by
    intro j k r r' _ hjk hr hr' hd hd'
    obtain ⟨hj, rfl⟩ := List.getElem?_eq_some_iff.mp hr
    obtain ⟨hk, rfl⟩ := List.getElem?_eq_some_iff.mp hr'
    have hle := List.pairwise_iff_getElem.mp h.sorted j k hj hk hjk
    have hpos := h.pos _ (List.getElem_mem hk) hd'
    rw [BitVec.le_def] at hle
    -- the earlier mark cannot lie above the later one, so it ends below it
    rcases List.pairwise_iff_getElem.mp h.disjoint j k hj hk hjk hd hd' with h' | h' <;> omega

/-- One sweep over the marks gives the same section, relocations and symbols as one call of
`_riscv_relax_delete_immediate` per mark, and clears every mark.  Symbols and relocations inside a
range are treated alike by both, so nothing is asked of them. -/
theorem riscvRelaxResolveDeleteRelocs_eq_immediate (info : SecInfo) (st : SecState) (h : Marked st) :
    SameResult (riscvRelaxResolveDeleteRelocs info st) (deleteMarksImmediate info st) := by
  have hagree : Agree st st 0 0 := by
    refine ⟨rfl, rfl, rfl, rfl, h.room, fun r hr hd => ?_, fun _ => rfl⟩
    have hin := h.inside r (List.mem_of_getElem? hr) hd
    exact closeGap_zero (by omega)
  have hrun := resolveDeleteLoop_sameResult info st.relocs.length 0 0 st st h.pending hagree (.inl rfl)
    (by omega) (fun k r _ hk => absurd hk (by omega))
  rwa [Nat.sub_zero, ← List.range_eq_range'] at hrun

/-- Twelve bytes with two adjacent ranges and one at the end, a relocation and symbols between them. -/
def markedSample : SecState where
  size := 12
  contents := [0, 1, 2, 3, 4, 5, 6, 7, 8, 9, 10, 11]
  relocs := [⟨0, 0, .delete, 2⟩, ⟨2, 0, .delete, 2⟩, ⟨2, 0, .relax, 0⟩, ⟨6, 1, .branch, 0⟩, ⟨8, 0, .delete, 4⟩]
  locals := [⟨4, 8, 1, .notype⟩, ⟨12, 0, 1, .notype⟩]
  hashes := [{ rootType := .defined, defSection := some 5, defValue := 6, size := 2 }]

def markedSampleInfo : SecInfo := { sec := 5, shndx := 1, symHashes := [0] }

theorem markedSample_sameResult :
    SameResult (riscvRelaxResolveDeleteRelocs markedSampleInfo markedSample)
        (deleteMarksImmediate markedSampleInfo markedSample) ∧
      (riscvRelaxResolveDeleteRelocs markedSampleInfo markedSample).contents.take 4 = [4, 5, 6, 7] :=
  ⟨riscvRelaxResolveDeleteRelocs_eq_immediate markedSampleInfo markedSample
    ⟨by decide, by decide, by decide, by decide, by decide⟩, by decide⟩

end RiscvBinutils.Bfd
