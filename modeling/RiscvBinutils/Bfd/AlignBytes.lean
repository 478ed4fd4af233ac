/-
What handling one `R_RISCV_ALIGN` does to the bytes of a section (bfd/elfnn-riscv.c,
`_bfd_riscv_relax_align`): when its loop ends, which bytes are accessed, and what is left at the relocation.
Offset and addend are whatever the object file says.
-/
import Mathlib.Data.Nat.Size
import RiscvBinutils.Bfd.Align

namespace RiscvBinutils.Bfd

open RiscvBinutils.Base

/-! ## The alignment is found or looked for forever -/

section Loop

variable {addend : Vma}

/-- Doubled 64 times, the alignment is zero and stays so. -/
theorem shiftLeft_one_le (k : Nat) (h : 2 ^ 63 ≤ addend.toNat) : 1#64 <<< k ≤ addend := by
  rw [BitVec.le_def]
  by_cases hk : k < 64
  · have hpow : 2 ^ k ≤ 2 ^ 63 := Nat.pow_le_pow_right (by decide) (by omega)
    rw [toNat_shiftLeft_one hk]
    omega
  · have hzero : 1#64 <<< k = 0#64 := BitVec.shiftLeft_eq_zero (by omega)
    rw [hzero]
    exact Nat.zero_le _

theorem alignmentLoop_none (h : 2 ^ 63 ≤ addend.toNat) (fuel k : Nat) :
    alignmentLoop addend fuel (1#64 <<< k) = none := by
  induction fuel generalizing k with
  | zero => rfl
  | succ fuel ih =>
    rw [alignmentLoop, if_pos (shiftLeft_one_le k h), shiftLeft_one_mul_two]
    exact ih (k + 1)

/-- The smallest power of two beyond a number. -/
theorem size_spec (n : Nat) : n < 2 ^ n.size ∧ ∀ m < n.size, 2 ^ m ≤ n :=
  ⟨Nat.lt_size_self n, fun _ hm => Nat.lt_size.mp hm⟩

theorem alignmentLoop_size (h : addend.toNat < 2 ^ 63) {fuel : Nat} (hfuel : addend.toNat.size < fuel) :
    alignmentLoop addend fuel 1 = some (1#64 <<< addend.toNat.size) := by
  obtain ⟨hhigh, hlow⟩ := size_spec addend.toNat
  have hsize : addend.toNat.size ≤ 63 := Nat.size_le.mpr h
  exact @alignmentLoop_eq _ addend fuel 0 (by omega) hlow hhigh (Nat.zero_le _) (by omega)

/-- The loop ends, with a power of two beyond the addend, exactly for addends below 2^63. -/
theorem alignmentLoop_ends_iff (addend : Vma) :
    (∃ fuel alignment n, alignmentLoop addend fuel 1 = some alignment ∧ alignment.toNat = 2 ^ n ∧
      addend.toNat < alignment.toNat) ↔ addend.toNat < 2 ^ 63 := by
  constructor
  · rintro ⟨fuel, alignment, n, hloop, -, -⟩
    by_contra hge
    have hnone := @alignmentLoop_none addend (by omega) fuel 0
    rw [BitVec.shiftLeft_zero] at hnone
    rw [show (1 : Vma) = 1#64 from rfl, hnone] at hloop
    cases hloop
  · intro h
    have hsize : addend.toNat.size < 64 := Nat.lt_succ_of_le (Nat.size_le.mpr h)
    refine ⟨65, _, addend.toNat.size, alignmentLoop_size h (by omega), toNat_shiftLeft_one hsize, ?_⟩
    rw [toNat_shiftLeft_one hsize]
    exact (size_spec addend.toNat).1

/-- With the addend 2^63 the alignment never gets there. -/
theorem alignmentLoop_two_pow_63 : ¬ ∃ fuel alignment n, alignmentLoop 0x8000000000000000 fuel 1 = some alignment ∧
    alignment.toNat = 2 ^ n ∧ (0x8000000000000000 : Vma).toNat < alignment.toNat := by
  rintro ⟨fuel, alignment, n, hloop, -, -⟩
  have hnone := @alignmentLoop_none 0x8000000000000000 (by decide) fuel 0
  rw [BitVec.shiftLeft_zero] at hnone
  rw [show (1 : Vma) = 1#64 from rfl, hnone] at hloop
  cases hloop

end Loop

/-! ## Accesses -/

/-- An access to `contents`: `len` bytes from `off` on.  Offsets are added to a pointer and wrap with it. -/
structure Access where
  off : Vma
  len : Nat
  deriving DecidableEq, Repr

/-- Every byte that is read or written is one of the section. -/
def Access.Inside (size : Vma) (a : Access) : Prop := ∀ k < a.len, a.off + BitVec.ofNat 64 k < size

/-- The stores of the NOPs. -/
def nopAccesses (offset : Vma) (bytes : Nat) : List Access :=
  (List.range (bytes / 4)).map (fun k => ⟨offset + BitVec.ofNat 64 (4 * k), 4⟩) ++
    if bytes % 4 ≠ 0 then [⟨offset + BitVec.ofNat 64 (bytes / 4 * 4), 2⟩] else []

/-- The `memmove` of `_riscv_relax_delete_bytes`: what it reads and what it writes. -/
def deleteAccesses (addr count deleteTotal toaddr : Vma) : List Access :=
  let bytesToMove := (toaddr - addr - count).toNat
  [⟨addr + count + deleteTotal, bytesToMove⟩, ⟨addr, bytesToMove⟩]

/-- A run of `_bfd_riscv_relax_align`: the state it leaves, the accesses it makes, and what it returns. -/
structure AlignRun where
  st : SecState
  accesses : List Access
  returned : Bool
  deriving DecidableEq, Repr

/-- `_bfd_riscv_relax_align` with all it does; `none` when the loop does not end. -/
def alignRun (info : SecInfo) (st : SecState) (i : Nat) (rel : Rela) (symval : Vma) : Option AlignRun :=
  match alignmentLoop rel.addend 65 1 with
  | none => none
  | some alignment =>
    let nops := nopBytes alignment (symval - rel.addend)
    if rel.addend < nops then some ⟨st, [], false⟩
    else
      let st := setInfo st i .none
      if nops = rel.addend then some ⟨st, [], true⟩
      else
        let st := { st with contents := writeNops rel.offset.toNat nops.toNat st.contents }
        some ⟨(riscvRelaxDeleteImmediate info st (rel.offset + nops) (rel.addend - nops) none none).1,
          nopAccesses rel.offset nops.toNat ++
            deleteAccesses (rel.offset + nops) (rel.addend - nops) 0 st.size, true⟩

/-- The state after a run that succeeds is the one of `bfdRiscvRelaxAlign`. -/
theorem relaxAlign_ok_iff {info : SecInfo} {st st' : SecState} {i : Nat} {rel : Rela} {symval : Vma} :
    bfdRiscvRelaxAlign info st i rel symval = .ok st' ↔
      ∃ run, alignRun info st i rel symval = some run ∧ run.returned = true ∧ run.st = st' := by
  unfold bfdRiscvRelaxAlign alignRun
  cases alignmentLoop rel.addend 65 1 with
  | none => simp
  | some alignment =>
    dsimp only
    split
    · simp
    · split
      · simp
      · simp

/-! ## The NOPs -/

/-- NOPs of four bytes, then NOPs of two. -/
def nops (four two : Nat) : List Byte :=
  (List.replicate four (toBytes 4 riscvNop.toNat)).flatten ++ (List.replicate two (toBytes 2 rvcNop.toNat)).flatten

/-- Nothing but whole NOPs, at most one of them of two bytes, and that one last. -/
def WholeNops (bs : List Byte) : Prop := ∃ four two, two ≤ 1 ∧ bs = nops four two

theorem nops_succ (four two : Nat) : nops (four + 1) two = toBytes 4 riscvNop.toNat ++ nops four two := by
  rw [nops, nops, List.replicate_succ, List.flatten_cons, List.append_assoc]

theorem nops_length (four two : Nat) : (nops four two).length = 4 * four + 2 * two := by
  simp [nops, Nat.mul_comm]

section Nops

variable {contents : List Byte}

theorem putNops_eq {offset n : Nat} (h : offset + 4 * n ≤ contents.length) :
    putNops offset n contents = splice contents offset (nops n 0) := by
  induction n generalizing offset contents with
  | zero => simp [putNops, nops, splice]
  | succ n ih =>
    have hlen : (toBytes 4 riscvNop.toNat).length = 4 := toBytes_length 4 _
    have hput : (putl 4 riscvNop contents offset).length = contents.length :=
      splice_length (by rw [hlen]; omega)
    have hnext := splice_append (toBytes 4 riscvNop.toNat) (nops n 0) (by omega : offset ≤ contents.length)
    rw [hlen] at hnext
    rw [putNops, ih (by rw [hput]; omega), putl, hnext, nops_succ]

theorem writeNops_eq {offset bytes : Nat} (h : offset + bytes + bytes % 2 ≤ contents.length) :
    writeNops offset bytes contents =
      splice contents offset (nops (bytes / 4) (if bytes % 4 ≠ 0 then 1 else 0)) := by
  have hfour : offset + 4 * (bytes / 4) ≤ contents.length := by omega
  unfold writeNops
  dsimp only
  rw [putNops_eq hfour]
  split
  · have hnext := splice_append (nops (bytes / 4) 0) (toBytes 2 rvcNop.toNat) (by omega : offset ≤ contents.length)
    rw [nops_length, Nat.mul_zero, Nat.add_zero, Nat.mul_comm 4] at hnext
    rw [putl, hnext]
    congr 1
    simp [nops]
  · rfl

/-- Only the padding is written to. -/
theorem writeNops_sameOutside {offset bytes len : Nat} (hlen : bytes + bytes % 2 ≤ len)
    (h : offset + len ≤ contents.length) : SameOutside offset len contents (writeNops offset bytes contents) := by
  rw [writeNops_eq (by omega)]
  refine SameOutside.splice h ?_
  rw [nops_length]
  split <;> omega

/-- An even number of bytes is filled with whole NOPs. -/
theorem writeNops_wholeNops {offset bytes : Nat} (heven : bytes % 2 = 0) (h : offset + bytes ≤ contents.length) :
    WholeNops (slice (writeNops offset bytes contents) offset bytes) := by
  have hlen : (nops (bytes / 4) (if bytes % 4 ≠ 0 then 1 else 0)).length = bytes := by
    rw [nops_length]
    split <;> omega
  have hslice := slice_splice_same (nops (bytes / 4) (if bytes % 4 ≠ 0 then 1 else 0))
    (by omega : offset ≤ contents.length)
  rw [hlen] at hslice
  refine ⟨bytes / 4, if bytes % 4 ≠ 0 then 1 else 0, ?_, ?_⟩
  · split <;> omega
  · rw [writeNops_eq (by omega), hslice]

end Nops

/-! ## One relocation -/

section Run

variable {info : SecInfo} {st : SecState} {i n : Nat} {rel : Rela} {secAddr : Vma}

/-- So many bytes bring an address to the next multiple of the smallest power of two beyond the addend. -/
structure NextMultiple (addr addend kept : Nat) : Prop where
  least : kept < 2 ^ addend.size
  multiple : (addr + kept) % 2 ^ addend.size = 0

/-- What is to be true after a run that succeeds and keeps `kept` bytes of padding: the rest of the padding is
gone, nothing else is, and no access has left the section. -/
structure AlignDone (st : SecState) (rel : Rela) (kept : Nat) (run : AlignRun) : Prop where
  returned : run.returned = true
  enough : kept ≤ rel.addend.toNat
  size : run.st.size.toNat = st.size.toNat - (rel.addend.toNat - kept)
  contents : run.st.contents.take run.st.size.toNat =
    st.contents.take rel.offset.toNat ++ slice run.st.contents rel.offset.toNat kept ++
      (st.contents.take st.size.toNat).drop (rel.offset.toNat + rel.addend.toNat)
  inside : ∀ a ∈ run.accesses, a.Inside st.size

/-- A run that fails has done nothing. -/
structure AlignRefused (st : SecState) (run : AlignRun) : Prop where
  returned : run.returned = false
  state : run.st = st
  accesses : run.accesses = []

/-- How a relocation is handled.  Padding of the right length stays as it is; where some of it goes, an even number
of bytes is filled with whole NOPs. -/
structure AlignHandled (secAddr : Vma) (st : SecState) (rel : Rela) (kept : Nat) (run : AlignRun) : Prop where
  next : NextMultiple (secAddr.toNat + rel.offset.toNat) rel.addend.toNat kept
  refused : rel.addend.toNat < kept → AlignRefused st run
  done : kept ≤ rel.addend.toNat → AlignDone st rel kept run
  same : kept = rel.addend.toNat → run.st.contents = st.contents ∧ run.accesses = []
  filled : kept < rel.addend.toNat → kept % 2 = 0 → WholeNops (slice run.st.contents rel.offset.toNat kept)

/-- The same with whole NOPs in any case. -/
def AlignFilled (info : SecInfo) (st : SecState) (i : Nat) (rel : Rela) (secAddr : Vma) : Prop :=
  ∃ run kept, alignRun info st i rel (rel.offset + rel.addend + secAddr) = some run ∧
    NextMultiple (secAddr.toNat + rel.offset.toNat) rel.addend.toNat kept ∧
    (AlignRefused st run ∨
      (AlignDone st rel kept run ∧ WholeNops (slice run.st.contents rel.offset.toNat kept)))

theorem Access.inside_of_le {size : Vma} {a : Access} (h : a.off.toNat + a.len ≤ size.toNat) : a.Inside size := by
  intro k hk
  have hlt := size.isLt
  rw [BitVec.lt_def, BitVec.toNat_add, BitVec.toNat_ofNat]
  omega

theorem nopAccesses_inside {size offset : Vma} {bytes : Nat} (h : offset.toNat + bytes + bytes % 2 ≤ size.toNat) :
    ∀ a ∈ nopAccesses offset bytes, a.Inside size := by
  have hlt := size.isLt
  have hoff (k : Nat) (hk : offset.toNat + k ≤ size.toNat) : (offset + BitVec.ofNat 64 k).toNat = offset.toNat + k := by
    rw [BitVec.toNat_add, BitVec.toNat_ofNat]
    omega
  intro a ha
  rcases List.mem_append.mp ha with hfour | htwo
  · obtain ⟨k, hk, rfl⟩ := List.mem_map.mp hfour
    have hkn := List.mem_range.mp hk
    apply Access.inside_of_le
    dsimp only
    rw [hoff _ (by omega)]
    omega
  · split at htwo
    · obtain rfl := List.mem_singleton.mp htwo
      apply Access.inside_of_le
      dsimp only
      rw [hoff _ (by omega)]
      omega
    · cases htwo

theorem deleteAccesses_inside {size addr count : Vma} (h : addr.toNat + count.toNat ≤ size.toNat) :
    ∀ a ∈ deleteAccesses addr count 0 size, a.Inside size := by
  have hlt := size.isLt
  have hsum : (addr + count).toNat = addr.toNat + count.toNat := by
    rw [BitVec.toNat_add]
    omega
  have hmove : (size - addr - count).toNat = size.toNat - addr.toNat - count.toNat := by
    simp only [BitVec.toNat_sub]
    omega
  intro a ha
  apply Access.inside_of_le
  rcases List.mem_cons.mp ha with rfl | ha
  · dsimp only
    rw [show addr + count + 0 = addr + count from BitVec.add_zero _, hsum, hmove]
    omega
  · obtain rfl := List.mem_singleton.mp ha
    dsimp only
    rw [hmove]
    omega

/-- What the section holds after its padding has become `c` and the rest of it is deleted. -/
theorem delete_contents {c : List Byte} {off addend kept : Nat} {addr count : Vma} (hkept : kept < addend)
    (hc : SameOutside off addend st.contents c) (hin : off + addend ≤ st.size.toNat)
    (hroom : st.size.toNat ≤ st.contents.length) (haddr : addr.toNat = off + kept)
    (hcount : count.toNat = addend - kept) {c' : List Byte}
    (hc' : (riscvRelaxDeleteImmediate info { st with contents := c } addr count none none).1.contents = c') :
    c'.take (st.size.toNat - (addend - kept)) =
        st.contents.take off ++ slice c' off kept ++ (st.contents.take st.size.toNat).drop (off + addend) ∧
      slice c' off kept = slice c off kept := by
  have hlen := hc.length
  have hend : off + kept + (addend - kept) = off + addend := by omega
  have hmove := deleteBytes_contents_whole info { st with contents := c } addr count none
    (by rw [haddr, hcount]; change _ ≤ st.size.toNat; omega)
  rw [riscvRelaxDeleteImmediate] at hc'
  dsimp only at hmove hc'
  rw [hc', haddr, hcount] at hmove
  have hslice : slice c' off kept = slice c off kept := by
    have hbelow := @memmove_take_below _ c (off + kept) (off + kept + (addend - kept))
      (st.size.toNat - (off + kept) - (addend - kept)) (off + kept) le_rfl (by omega)
    rw [← hmove, List.take_add, List.take_add] at hbelow
    have hoff := @memmove_take_below _ c (off + kept) (off + kept + (addend - kept))
      (st.size.toNat - (off + kept) - (addend - kept)) off (by omega) (by omega)
    rw [← hmove] at hoff
    rw [hoff] at hbelow
    exact List.append_cancel_left hbelow
  refine ⟨?_, hslice⟩
  have hlow := hc.slice 0 off (.inl (by omega))
  have hhigh := hc.slice (off + addend) (st.size.toNat - (off + addend)) (.inr (by omega))
  rw [slice, slice, List.drop_zero, List.drop_zero] at hlow
  rw [slice, slice] at hhigh
  rw [hslice, hmove, memmove_take_excise (by omega) (by omega), excise, hend, List.take_take,
    Nat.min_eq_left (by omega), List.take_add, List.drop_take, List.drop_take, hhigh, hlow, slice]

theorem nopBytes_nextMultiple (hend : rel.addend.toNat < 2 ^ 63) :
    NextMultiple (secAddr.toNat + rel.offset.toNat) rel.addend.toNat
      (nopBytes (1#64 <<< rel.addend.toNat.size) (rel.offset + secAddr)).toNat := by
  have hsize : rel.addend.toNat.size < 64 := Nat.lt_succ_of_le (Nat.size_le.mpr hend)
  obtain ⟨hlt, hmod⟩ := nopBytes_spec hsize (rel.offset + secAddr)
  refine ⟨hlt, ?_⟩
  rw [Nat.add_mod, toNat_add_mod hsize.le, ← Nat.add_mod] at hmod
  rw [Nat.add_comm secAddr.toNat]
  exact hmod

/-- The run, once the alignment is found. -/
theorem alignRun_of_lt (info : SecInfo) (st : SecState) (i : Nat) (hend : rel.addend.toNat < 2 ^ 63) {nops : Vma}
    (hnops : nopBytes (1#64 <<< rel.addend.toNat.size) (rel.offset + secAddr) = nops) :
    alignRun info st i rel (rel.offset + rel.addend + secAddr) =
      if rel.addend < nops then some ⟨st, [], false⟩
      else if nops = rel.addend then some ⟨setInfo st i .none, [], true⟩
      else some ⟨(riscvRelaxDeleteImmediate info
          { setInfo st i .none with contents := writeNops rel.offset.toNat nops.toNat st.contents }
          (rel.offset + nops) (rel.addend - nops) none none).1,
        nopAccesses rel.offset nops.toNat ++
          deleteAccesses (rel.offset + nops) (rel.addend - nops) 0 st.size, true⟩ := by
  have hsize : rel.addend.toNat.size < 64 := Nat.lt_succ_of_le (Nat.size_le.mpr hend)
  rw [alignRun, alignmentLoop_size hend (by omega)]
  dsimp only
  rw [padding_start, hnops]
  rfl

/-- Where the loop ends and the padding is all in the section, the relocation is either refused, with nothing
done, for lack of NOPs, or the padding that stays brings what follows to the next multiple of the smallest power of
two beyond the addend, the rest of the padding goes and nothing else. -/
theorem relaxAlign_handled (info : SecInfo) (st : SecState) (i : Nat) (rel : Rela) (secAddr : Vma)
    (hend : rel.addend.toNat < 2 ^ 63) (hin : rel.offset.toNat + rel.addend.toNat ≤ st.size.toNat)
    (hroom : st.size.toNat ≤ st.contents.length) :
    ∃ run kept, alignRun info st i rel (rel.offset + rel.addend + secAddr) = some run ∧
      AlignHandled secAddr st rel kept run := by
  have hnext := @nopBytes_nextMultiple rel secAddr hend
  generalize hnops : nopBytes (1#64 <<< rel.addend.toNat.size) (rel.offset + secAddr) = nops at hnext
  have hrun := alignRun_of_lt info st i hend hnops
  have hlt := st.size.isLt
  by_cases hfew : rel.addend < nops
  · rw [if_pos hfew] at hrun
    rw [BitVec.lt_def] at hfew
    refine ⟨_, nops.toNat, hrun, hnext, fun _ => ⟨rfl, rfl, rfl⟩, ?_, ?_, ?_⟩
    · intro hle
      omega
    · intro heq
      omega
    · intro hless
      omega
  rw [if_neg hfew] at hrun
  rw [BitVec.lt_def, Nat.not_lt] at hfew
  by_cases hsame : nops = rel.addend
  · rw [if_pos hsame] at hrun
    have hkept : nops.toNat = rel.addend.toNat := congrArg BitVec.toNat hsame
    refine ⟨_, nops.toNat, hrun, hnext, ?_, fun _ => ?_, fun _ => ⟨rfl, rfl⟩, ?_⟩
    · intro hless
      omega
    · refine ⟨rfl, hfew, ?_, ?_, ?_⟩
      · change st.size.toNat = _
        omega
      · change st.contents.take st.size.toNat = st.contents.take rel.offset.toNat ++
          slice st.contents rel.offset.toNat nops.toNat ++ _
        rw [hkept, slice, ← List.take_add, List.drop_take, ← List.take_add]
        congr 1
        omega
      · intro a ha
        cases ha
    · intro hless
      omega
  rw [if_neg hsame] at hrun
  have hless : nops.toNat < rel.addend.toNat :=
    Nat.lt_of_le_of_ne hfew fun h => hsame (BitVec.eq_of_toNat_eq h)
  have haddr : (rel.offset + nops).toNat = rel.offset.toNat + nops.toNat := by
    rw [BitVec.toNat_add]
    omega
  have hcount : (rel.addend - nops).toNat = rel.addend.toNat - nops.toNat := by
    rw [BitVec.toNat_sub]
    omega
  have hwrite : SameOutside rel.offset.toNat rel.addend.toNat st.contents
      (writeNops rel.offset.toNat nops.toNat st.contents) := writeNops_sameOutside (by omega) (by omega)
  have hsize : (st.size - (rel.addend - nops)).toNat = st.size.toNat - (rel.addend.toNat - nops.toNat) := by
    rw [BitVec.toNat_sub, hcount]
    omega
  obtain ⟨hcontents, hslice⟩ := @delete_contents info (setInfo st i .none)
    (writeNops rel.offset.toNat nops.toNat st.contents)
    rel.offset.toNat rel.addend.toNat nops.toNat (rel.offset + nops) (rel.addend - nops) hless hwrite hin hroom haddr
    hcount _ rfl
  refine ⟨_, nops.toNat, hrun, hnext, ?_, fun _ => ?_, ?_, fun _ heven => ?_⟩
  · intro h
    omega
  · refine ⟨rfl, hfew, hsize, ?_, ?_⟩
    · dsimp only
      rw [show (riscvRelaxDeleteImmediate info
          { setInfo st i .none with contents := writeNops rel.offset.toNat nops.toNat st.contents }
          (rel.offset + nops) (rel.addend - nops) none none).1.size = st.size - (rel.addend - nops) from rfl, hsize]
      exact hcontents
    · intro a ha
      rcases List.mem_append.mp ha with ha | ha
      · exact nopAccesses_inside (by omega) a ha
      · exact deleteAccesses_inside (by omega) a ha
  · intro h
    omega
  · rw [hslice]
    exact writeNops_wholeNops heven (by omega)

end Run

/-- A section that the assembler has aligned to eight bytes at offset two: the padding is `c.nop; nop`. -/
def alignSample : SecState where
  size := 10
  contents := [0x82, 0x80, 0x01, 0x00, 0x13, 0x00, 0x00, 0x00, 0x82, 0x80]
  relocs := [⟨2, 0, .align, 6⟩]
  locals := []
  hashes := []

def alignSampleInfo : SecInfo := { sec := 0, shndx := 1, symHashes := [] }

theorem alignSample_handled : ∃ run kept,
    alignRun alignSampleInfo alignSample 0 ⟨2, 0, .align, 6⟩ (2 + 6 + 2) = some run ∧
      AlignHandled 2 alignSample ⟨2, 0, .align, 6⟩ kept run :=
  relaxAlign_handled alignSampleInfo alignSample 0 ⟨2, 0, .align, 6⟩ 2 (by decide) (by decide) (by decide)

/-- All of the padding is needed at address zero, and it stays as it is: with the short NOP first. -/
theorem alignSample_not_filled : ¬ AlignFilled alignSampleInfo alignSample 0 ⟨2, 0, .align, 6⟩ 0 := by
  rintro ⟨run, kept, hrun, hnext, h⟩
  have hsize : (6 : Nat).size = 3 := by decide
  have hstays : alignRun alignSampleInfo alignSample 0 ⟨2, 0, .align, 6⟩ (2 + 6 + 0) =
      some ⟨setInfo alignSample 0 .none, [], true⟩ := by decide
  obtain rfl : ⟨setInfo alignSample 0 .none, [], true⟩ = run := Option.some.inj (hstays.symm.trans hrun)
  obtain ⟨hlt, hmul⟩ := hnext
  change kept < 2 ^ (6 : Nat).size at hlt
  change (0 + 2 + kept) % 2 ^ (6 : Nat).size = 0 at hmul
  rw [hsize] at hlt hmul
  obtain rfl : kept = 6 := by omega
  rcases h with hrefused | ⟨-, four, two, htwo, hnops⟩
  · exact absurd hrefused.returned (by decide)
  · have hlen := congrArg List.length hnops
    rw [nops_length] at hlen
    change 6 = _ at hlen
    obtain rfl : four = 1 := by omega
    obtain rfl : two = 1 := by omega
    exact absurd hnops (by decide)

end RiscvBinutils.Bfd
