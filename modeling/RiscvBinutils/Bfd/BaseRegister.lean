/-
Low parts that get a base register of their own (bfd/elfnn-riscv.c, `R_RISCV_GPREL_I/S` and `R_RISCV_TPREL_I/S` in
`riscv_elf_relocate_section`).
The upper part is gone, so that `x0`, `gp` or `tp` takes the place of its register; which one it is is decided when
the relocation is placed.
-/
import RiscvBinutils.Bfd.RelaxCall

namespace RiscvBinutils.Bfd

open RiscvBinutils.Base RiscvBinutils.Opcode RiscvBinutils.Machine RiscvBinutils.Gas

/-! ## Base registers -/

/-- What the base registers hold while the program runs. -/
def baseValue (link : Link) (reg : Reg) : Vma :=
  if reg = 3 then riscvGlobalPointerValue link
  else if reg = 4 then link.tlsSec.getD 0
  else 0

def RelocType.isGprel (type : RelocType) : Bool := type = .gprelI ∨ type = .gprelS

def RelocType.isTprel (type : RelocType) : Bool := type = .tprelI ∨ type = .tprelS

section Word

variable {contents : List Byte} {off : Nat}

/-- The register field is replaced, and nothing else. -/
theorem setRs1_bits (reg : Reg) (hoff : off ≤ contents.length) {i : Nat} (hi : i < 32) :
    (getl 4 (setRs1 (reg.setWidth 64) contents off) off).getLsbD i =
      if 15 ≤ i ∧ i < 20 then reg.getLsbD (i - 15) else (getl 4 contents off).getLsbD i := by
  have hmask : ∀ i < 32, (0x1f#64 <<< 15).getLsbD i = decide (15 ≤ i ∧ i < 20) := by decide
  rw [setRs1, getLsbD_getl_putl _ hoff (by omega) (by omega), BitVec.getLsbD_or, BitVec.getLsbD_and, BitVec.getLsbD_not,
    hmask i hi, BitVec.getLsbD_shiftLeft, BitVec.getLsbD_setWidth]
  by_cases hin : 15 ≤ i ∧ i < 20
  · simp [hin, show ¬ i < 15 by omega, show i < 64 by omega, show i - 15 < 64 by omega]
  · have hout : reg.getLsbD (i - 15) = false ∨ i < 15 := by
      by_cases hlow : i < 15
      · exact .inr hlow
      · exact .inl (BitVec.getLsbD_of_ge _ _ (by omega))
    rw [decide_eq_false hin, if_neg hin]
    rcases hout with hout | hout
    · simp [hout, show i < 64 by omega]
    · simp [hout, show i < 64 by omega]

theorem setRs1_sameOutside (reg : Vma) (hin : off + 4 ≤ contents.length) :
    SameOutside off 4 contents (setRs1 reg contents off) := sameOutside_putl _ hin

end Word

/-- An instruction whose base register and immediate were replaced: they lead to `target`, and it is otherwise the
same. -/
structure Rebased (link : Link) (type : RelocType) (reg : Reg) (target before after : Vma) : Prop where
  base : rs1Of after = reg
  address : baseValue link reg + lowImm type after = target
  rest : ∀ i < 32, (howto type).dstMask.getLsbD i = false → ¬ (15 ≤ i ∧ i < 20) → after.getLsbD i = before.getLsbD i

section Place

variable {link : Link} {inp : Input} {st : RelocState} {s : RelocSym}

theorem isBaseRel_isLo (type : RelocType) (h : type.isGprel ∨ type.isTprel) :
    (type.isLo12I ∨ type.isLo12S) ∧ (howto type).pcRelative = false ∧ (howto type).bitsize = 32 ∧
      ∀ i < 5, (howto type).dstMask.getLsbD (15 + i) = false := by
  cases type <;> first
    | exact absurd h (by decide)
    | exact ⟨by decide, rfl, rfl, by decide⟩

/-- Placed with the base register `reg`, whose value the relocation leaves out of its own. -/
theorem doRelocation_rebased {rel : Rela} {value : Vma} (reg : Reg) (hbase : rel.type.isGprel ∨ rel.type.isTprel)
    (hin : rel.offset.toNat + 4 ≤ st.contents.length) (hvalid : validItypeImm (value + rel.addend) = true) :
    ∃ st', doRelocation link inp
        { st with contents := setRs1 (reg.setWidth 64) st.contents rel.offset.toNat } rel value =
        .ok st' ∧
      Rebased link rel.type reg (baseValue link reg + (value + rel.addend)) (getl 4 st.contents rel.offset.toNat)
        (getl 4 st'.contents rel.offset.toNat) ∧
      SameOutside rel.offset.toNat 4 st.contents st'.contents := by
  obtain ⟨hlo, hpc, hsize, hmask⟩ := isBaseRel_isLo rel.type hbase
  have hoff : rel.offset.toNat ≤ st.contents.length := by omega
  have hset := setRs1_sameOutside (reg.setWidth 64) hin
  have hbits {i : Nat} (hi : i < 32) := setRs1_bits reg hoff hi
  generalize setRs1 (reg.setWidth 64) st.contents rel.offset.toNat = contents at hset hbits ⊢
  have hin' : rel.offset.toNat + 4 ≤ contents.length := by
    rw [hset.length]
    exact hin
  have hplaced := @placed_lo12 link.target rel contents value (link.secAddr inp.sec) hlo hin'
  have hok := hplaced.ok.mpr trivial
  have hfield := hplaced.field trivial
  have hkept := hplaced.bits
  have hout := hplaced.outside
  rw [insnWord, hsize] at hfield
  rw [insnWord, insnWord, hsize] at hkept
  rw [hsize] at hout
  have hvalue : relocValue rel value (link.secAddr inp.sec) = value + rel.addend := by
    rw [relocValue, hpc]
    rfl
  have hsext : sext 12 (value + rel.addend) = value + rel.addend := by
    rw [validItypeImm_iff] at hvalid
    exact (sext_eq_self_iff _ (by decide) (by decide)).mpr hvalid
  rw [hvalue, hsext] at hfield
  unfold doRelocation
  generalize hrun :
    performRelocation link.target rel value (link.secAddr inp.sec) contents = run at hok hfield hkept hout
  obtain ⟨status, contents'⟩ := run
  dsimp only at hok hfield hkept hout ⊢
  subst hok
  refine ⟨_, rfl, ⟨?_, ?_, ?_⟩, hset.trans hout⟩
  · apply BitVec.eq_of_getLsbD_eq
    intro i hi
    dsimp only
    rw [rs1Of, BitVec.getLsbD_extractLsb', hkept (15 + i) (by omega) (hmask i hi), hbits (by omega),
      if_pos (by omega), Nat.add_sub_cancel_left, decide_eq_true hi, Bool.true_and]
  · dsimp only
    rw [hfield]
  · intro i hi hout' hne
    dsimp only
    rw [hkept i hi hout', hbits hi, if_neg hne]

/-- What becomes of the instruction: an overflow is reported, or the symbol cannot be resolved, or a base register
and the immediate lead to the symbol. -/
def BasePlaced (link : Link) (st : RelocState) (s : RelocSym) : RelocOutcome → Prop
  | .ok st' => ∃ reg : Reg, (if s.rel.type.isTprel then reg = 4 else reg = 0 ∨ reg = 3) ∧
      Rebased link s.rel.type reg (s.relocation + s.rel.addend) (getl 4 st.contents s.rel.offset.toNat)
        (getl 4 st'.contents s.rel.offset.toNat) ∧
      SameOutside s.rel.offset.toNat 4 st.contents st'.contents
  | .error (e, _) => e = .status .overflow ∨ (e = .unresolvable ∧ s.unresolved = true)

theorem placeRelocation_cases (unresolved : Bool) (rel : Rela) (value : Vma) :
    (unresolved = true ∧ placeRelocation link inp st s unresolved rel value = .error (.unresolvable, st)) ∨
      placeRelocation link inp st s unresolved rel value = doRelocation link inp st rel value := by
  unfold placeRelocation
  split
  · rename_i h
    exact .inl ⟨h.1, rfl⟩
  · exact .inr rfl

/-- The base register is in place and the sum of the symbol's address and the addend without it fits. -/
theorem basePlaced_place {addend value : Vma} {reg : Reg} (hbase : s.rel.type.isGprel ∨ s.rel.type.isTprel)
    (hin : s.rel.offset.toNat + 4 ≤ st.contents.length)
    (hreg : if s.rel.type.isTprel then reg = 4 else reg = 0 ∨ reg = 3) (hvalid : validItypeImm (value + addend) = true)
    (hsum : baseValue link reg + (value + addend) = s.relocation + s.rel.addend) :
    BasePlaced link st s (placeRelocation link inp
      { st with contents := setRs1 (reg.setWidth 64) st.contents s.rel.offset.toNat } s s.unresolved
      { s.rel with addend := addend } value) := by
  rcases @placeRelocation_cases link inp
    { st with contents := setRs1 (reg.setWidth 64) st.contents s.rel.offset.toNat } s s.unresolved
    { s.rel with addend := addend } value with ⟨hun, h⟩ | h
  · rw [h]
    exact .inr ⟨rfl, hun⟩
  · obtain ⟨st', hok, hrebased, hout⟩ := @doRelocation_rebased link inp st { s.rel with addend := addend } value reg
      hbase hin hvalid
    rw [h, hok]
    dsimp only at hrebased
    rw [hsum] at hrebased
    exact ⟨reg, hreg, hrebased, hout⟩

theorem relocatePlain_tprel (htype : s.rel.type.isTprel) :
    relocatePlain link inp st s =
      if validItypeImm (tpoff link s.relocation + s.rel.addend) then
        placeRelocation link inp { st with contents := setRs1 4 st.contents s.rel.offset.toNat } s s.unresolved s.rel
          (tpoff link s.relocation)
      else .error (.status .overflow, st) := by
  have hcases : s.rel.type = .tprelI ∨ s.rel.type = .tprelS := by simpa [RelocType.isTprel] using htype
  unfold relocatePlain
  rcases hcases with h | h
  · simp only [h]
  · simp only [h]

theorem relocatePlain_gprel (htype : s.rel.type.isGprel) :
    relocatePlain link inp st s =
      if validItypeImm (s.relocation + s.rel.addend) then
        placeRelocation link inp { st with contents := setRs1 0 st.contents s.rel.offset.toNat } s s.unresolved s.rel
          s.relocation
      else if validItypeImm (s.relocation + s.rel.addend - riscvGlobalPointerValue link) then
        placeRelocation link inp { st with contents := setRs1 3 st.contents s.rel.offset.toNat } s s.unresolved
          { s.rel with addend := s.rel.addend - riscvGlobalPointerValue link } s.relocation
      else .error (.status .overflow, st) := by
  have hcases : s.rel.type = .gprelI ∨ s.rel.type = .gprelS := by simpa [RelocType.isGprel] using htype
  unfold relocatePlain
  rcases hcases with h | h
  · simp only [h]
  · simp only [h]

theorem basePlaced_tprel (htype : s.rel.type.isTprel) (hin : s.rel.offset.toNat + 4 ≤ st.contents.length)
    (htls : link.tlsSec.isSome) : BasePlaced link st s (relocatePlain link inp st s) := by
  obtain ⟨tls, htls⟩ := Option.isSome_iff_exists.mp htls
  rw [relocatePlain_tprel htype]
  split
  · rename_i hvalid
    refine @basePlaced_place link inp st s s.rel.addend _ 4 (.inr htype) hin (by rw [if_pos htype]) hvalid ?_
    rw [baseValue, if_neg (by decide), if_pos rfl, tpoff, htls, Option.getD_some]
    dsimp only
    bv_omega
  · exact .inl rfl

theorem basePlaced_gprel (htype : s.rel.type.isGprel) (hin : s.rel.offset.toNat + 4 ≤ st.contents.length) :
    BasePlaced link st s (relocatePlain link inp st s) := by
  have hnot : s.rel.type.isTprel = false := by
    cases h : s.rel.type <;> rw [h] at htype <;> first | rfl | exact absurd htype (by decide)
  rw [relocatePlain_gprel htype]
  split
  · rename_i hvalid
    refine @basePlaced_place link inp st s s.rel.addend _ 0 (.inl htype) hin (by simp [hnot]) hvalid ?_
    rw [baseValue, if_neg (by decide), if_neg (by decide)]
    exact BitVec.zero_add _
  · split
    · rename_i hvalid
      refine @basePlaced_place link inp st s (s.rel.addend - riscvGlobalPointerValue link) _ 3 (.inl htype) hin
        (by simp [hnot]) ?_ ?_
      · rwa [← show s.relocation + s.rel.addend - riscvGlobalPointerValue link =
          s.relocation + (s.rel.addend - riscvGlobalPointerValue link) by bv_omega]
      · rw [baseValue, if_pos rfl]
        bv_omega
    · exact .inl rfl

end Place

/-! ## The table of relocations -/

/-- The entry as the switch leaves it. -/
def plainEntry (link : Link) (inp : Input) (st : RelocState) (s : RelocSym) : Rela :=
  let rel := s.rel
  let pc := link.secAddr inp.sec + rel.offset
  match rel.type with
  | .gprelI | .gprelS =>
    let gp := riscvGlobalPointerValue link
    if validItypeImm (s.relocation + rel.addend) then rel
    else if validItypeImm (s.relocation + rel.addend - gp) then { rel with addend := rel.addend - gp }
    else rel
  | .pcrelHi20 => (riscvZeroPcrelHiReloc link rel pc s.relocation st.contents).2.1
  | .gotHi20 =>
    match link.sgot with
    | none => rel
    | some sgot =>
      if rel.addend ≠ 0 then rel
      else (riscvZeroPcrelHiReloc link rel pc (link.secAddr sgot + (fillGot link sgot st s).2) st.contents).2.1
  | _ => rel

/-- The entry as a round of a final link leaves it.  Against a discarded section it is cleared. -/
def roundEntry (link : Link) (inp : Input) (st : RelocState) (rel : Rela) : Rela :=
  match relocSymbol link inp rel with
  | .error _ => rel
  | .ok s =>
    if s.sec.any link.discardedSection then { s.rel with sym := 0, type := .none, addend := 0 }
    else if s.ifunc.isNone ∨ ((link.sections inp.sec).alloc = false ∧ (link.sections inp.sec).note = true) then
      plainEntry link inp st s
    else s.rel

/-- The loop of a final link with the table it works on: `n` rounds from position `i` on. -/
def relocateTable (link : Link) (inp : Input) :
    (n : Nat) → (i : Nat) → List Rela → RelocState → RelocOutcome × List Rela
  | 0, _, relocs, st => (.ok st, relocs)
  | n + 1, i, relocs, st =>
    match relocs[i]? with
    | none => (.ok st, relocs)
    | some rel =>
      let relocs := relocs.set i (roundEntry link inp st rel)
      match relocateOne link inp st rel with
      | .error e => (.error e, relocs)
      | .ok st => relocateTable link inp n (i + 1) relocs st

section Table

variable {link : Link} {inp : Input} {relocs table : List Rela} {st₀ st : RelocState} {i : Nat}

/-- The table before round `i`: behind it every entry is as its own round has left it, ahead nothing is written. -/
structure Untouched (link : Link) (inp : Input) (relocs : List Rela) (st₀ : RelocState) (table : List Rela) (i : Nat) :
    Prop where
  ahead : ∀ j, i ≤ j → table[j]? = relocs[j]?
  behind : ∀ j rel, j < i → relocs[j]? = some rel →
    ∃ st, relocateLoop link inp (relocs.take j) st₀ = .ok st ∧ table[j]? = some (roundEntry link inp st rel)

/-- A round writes to its own entry alone. -/
theorem Untouched.round {rel : Rela} (h : Untouched link inp relocs st₀ table i) (hrel : relocs[i]? = some rel)
    (hst : relocateLoop link inp (relocs.take i) st₀ = .ok st) :
    Untouched link inp relocs st₀ (table.set i (roundEntry link inp st rel)) (i + 1) where
  ahead j hj := by rw [List.getElem?_set_ne (by omega), h.ahead j (by omega)]
  behind j rel' hj hrel' := by
    by_cases heq : j = i
    · subst heq
      rw [hrel] at hrel'
      cases hrel'
      have hat := (h.ahead j le_rfl).trans hrel
      exact ⟨st, hst, List.getElem?_set_self (List.getElem?_eq_some_iff.mp hat).1⟩
    · rw [List.getElem?_set_ne (by omega)]
      exact h.behind j rel' (by omega) hrel'

/-- The rounds read entries that no round before them has written. -/
theorem relocateTable_eq : ∀ (n : Nat) {i : Nat} {table : List Rela} {st : RelocState}, i + n = relocs.length →
    relocateLoop link inp (relocs.take i) st₀ = .ok st → Untouched link inp relocs st₀ table i →
    (relocateTable link inp n i table st).1 = relocateLoop link inp (relocs.drop i) st ∧
      ∃ k, Untouched link inp relocs st₀ (relocateTable link inp n i table st).2 k
  | 0, i, table, st, hlen, _, h => by
    rw [List.drop_of_length_le (by omega)]
    exact ⟨rfl, i, h⟩
  | n + 1, i, table, st, hlen, hst, h => by
    have hlt : i < relocs.length := by omega
    have hrel : relocs[i]? = some relocs[i] := List.getElem?_eq_getElem hlt
    have hround := h.round hrel hst
    have hnext : relocateLoop link inp (relocs.take (i + 1)) st₀ = relocateOne link inp st relocs[i] := by
      rw [List.take_succ_eq_append_getElem hlt, relocateLoop_concat, hst]
    rw [relocateTable, h.ahead i le_rfl, hrel, List.drop_eq_getElem_cons hlt, relocateLoop]
    dsimp only
    cases hone : relocateOne link inp st relocs[i] with
    | error e => exact ⟨rfl, i + 1, hround⟩
    | ok st' => exact relocateTable_eq n (by omega) (hnext.trans hone) hround

end Table

/-- Rewriting a base register keeps the address that the instruction leads to, or is refused.  What it writes to its
entry of the table reaches no other one: the rounds together do what they do on the table as it was, and every entry
in it is the old one or what its own round has made of that. -/
theorem baseRegister_preserves (link : Link) (inp : Input) :
    (∀ st s, s.rel.type.isGprel ∨ (s.rel.type.isTprel ∧ link.tlsSec.isSome) →
      s.rel.offset.toNat + 4 ≤ st.contents.length → BasePlaced link st s (relocatePlain link inp st s)) ∧
    ∀ relocs st,
      (relocateTable link inp relocs.length 0 relocs st).1 = relocateLoop link inp relocs st ∧
      ∀ (j : Nat) (rel : Rela), relocs[j]? = some rel →
        (relocateTable link inp relocs.length 0 relocs st).2[j]? = some rel ∨
          ∃ st', relocateLoop link inp (relocs.take j) st = .ok st' ∧
            (relocateTable link inp relocs.length 0 relocs st).2[j]? = some (roundEntry link inp st' rel) := by
  constructor
  · rintro st s (htype | ⟨htype, htls⟩) hin
    · exact basePlaced_gprel htype hin
    · exact basePlaced_tprel htype hin htls
  · intro relocs st
    obtain ⟨hout, k, htable⟩ := @relocateTable_eq link inp relocs st relocs.length 0 relocs st (Nat.zero_add _) rfl
      ⟨fun _ _ => rfl, fun _ _ h => absurd h (Nat.not_lt_zero _)⟩
    refine ⟨hout, fun j rel hrel => ?_⟩
    rcases Nat.lt_or_ge j k with hlt | hge
    · exact .inr (htable.behind j rel hlt hrel)
    · rw [htable.ahead j hge]
      exact .inl hrel

/-! ## A weak symbol without a definition -/

/-- Everything at zero, `__global_pointer$` at 0x1000, which is not to be used. -/
def weakLink : Link where
  xlen := .rv64
  sections n := { output := some n }
  outputs _ := { vma := 0 }
  ownerSections := [0]
  absOutput := 9
  undSection := 8
  splt := 7
  relaxGp := false
  gpSymbol := some (0, 0x1000)

def weakEntry : HashEntry where
  rootType := .undefweak

def weakInput : Input where
  sec := 0
  elfSections := id
  locals := []
  symHashes := [0]
  hashes := [weakEntry]

/-- `addi a0, a0, %lo(weak + 0x900)`. -/
def weakState : PassState where
  contents := [0x13, 0x05, 0x05, 0x00]

def weakRela : Rela := ⟨0, 0, .lo12I, 0x900⟩

def weakSym : RelocSym where
  rel := weakRela.setType .gprelI
  relocation := 0
  h := some (0, weakEntry)

def weakFinal : RelocState where
  contents := weakState.contents

theorem weakSym_basePlaced : weakSym.rel.type.isGprel = true ∧
    BasePlaced weakLink weakFinal weakSym (relocatePlain weakLink weakInput weakFinal weakSym) :=
  ⟨rfl, (baseRegister_preserves weakLink weakInput).1 weakFinal weakSym (.inl rfl) (by decide)⟩

/-! ## Without gp -/

section KeptOut

variable {link link' : Link} {inp inp' : Input} {maxAlignment : Vma} {func : RelaxFunc} {st : PassState}
  {rel next : Rela} {s : RelocSym} {final : RelocState}

/-- The state at the end, also of a relocation that is refused. -/
def stateOf : RelocOutcome → RelocState
  | .ok st => st
  | .error (_, st) => st

/-- A low part that got a base register of its own while gp was not to be used, and what it has come to in the end:
any place, any symbol, any address. -/
structure GivenBase (link : Link) (inp : Input) (maxAlignment : Vma) (func : RelaxFunc) (st : PassState)
    (rel next : Rela) (s : RelocSym) (final : RelocState) : Prop where
  off : link.relaxGp = false
  low : rel.type = .lo12I ∨ rel.type = .lo12S ∨ rel.type = .pcrelLo12I ∨ rel.type = .pcrelLo12S
  type : s.rel.type = (relaxPair link inp maxAlignment func st rel next).rel.type
  given : s.rel.type.isGprel
  inside : s.rel.offset.toNat + 4 ≤ final.contents.length

/-- The base register is `x0`, or an overflow is reported. -/
def GpKeptOut (s : RelocSym) (outcome : RelocOutcome) : Prop :=
  rs1Of (getl 4 (stateOf outcome).contents s.rel.offset.toNat) = 0 ∨ ∃ st, outcome = .error (.status .overflow, st)

theorem rs1Of_setRs1 {contents : List Byte} {off : Nat} (reg : Reg) (hoff : off ≤ contents.length) :
    rs1Of (getl 4 (setRs1 (reg.setWidth 64) contents off) off) = reg := by
  apply BitVec.eq_of_getLsbD_eq
  intro i hi
  rw [rs1Of, BitVec.getLsbD_extractLsb', setRs1_bits reg hoff (by omega), if_pos (by omega), Nat.add_sub_cancel_left,
    decide_eq_true hi, Bool.true_and]

/-- Whatever comes of the relocation, the base register is in place. -/
theorem rs1Of_place {addend : Vma} (reg : Reg) (hbase : s.rel.type.isGprel)
    (hin : s.rel.offset.toNat + 4 ≤ final.contents.length) (hvalid : validItypeImm (s.relocation + addend) = true) :
    (∀ st, placeRelocation link inp
        { final with contents := setRs1 (reg.setWidth 64) final.contents s.rel.offset.toNat }
        s s.unresolved { s.rel with addend := addend } s.relocation ≠ .error (.status .overflow, st)) ∧
      rs1Of (getl 4 (stateOf (placeRelocation link inp
        { final with contents := setRs1 (reg.setWidth 64) final.contents s.rel.offset.toNat } s s.unresolved
        { s.rel with addend := addend } s.relocation)).contents s.rel.offset.toNat) = reg := by
  rcases @placeRelocation_cases link inp
    { final with contents := setRs1 (reg.setWidth 64) final.contents s.rel.offset.toNat } s s.unresolved
    { s.rel with addend := addend } s.relocation with ⟨-, h⟩ | h
  · rw [h]
    exact ⟨by simp, rs1Of_setRs1 reg (by omega)⟩
  · obtain ⟨st', hok, hrebased, -⟩ := @doRelocation_rebased link inp final { s.rel with addend := addend } s.relocation
      reg (.inl hbase) hin hvalid
    rw [h, hok]
    exact ⟨by simp, hrebased.base⟩

/-- With gp not to be used, it is kept out exactly when `x0` reaches the symbol in the end, or gp does not either. -/
theorem relaxGp_keptOut_iff (hgiven : GivenBase link inp maxAlignment func st rel next s final) :
    GpKeptOut s (relocatePlain link' inp' final s) ↔
      (validItypeImm (s.relocation + s.rel.addend) = true ∨
        validItypeImm (s.relocation + s.rel.addend - riscvGlobalPointerValue link') = false) := by
  rw [relocatePlain_gprel hgiven.given]
  by_cases hzero : validItypeImm (s.relocation + s.rel.addend) = true
  · rw [if_pos hzero]
    have hplaced := (@rs1Of_place link' inp' s final s.rel.addend 0 hgiven.given hgiven.inside hzero).2
    exact iff_of_true (.inl hplaced) (.inl hzero)
  · rw [if_neg hzero]
    by_cases hgp : validItypeImm (s.relocation + s.rel.addend - riscvGlobalPointerValue link') = true
    · rw [if_pos hgp]
      have hvalid : validItypeImm (s.relocation + (s.rel.addend - riscvGlobalPointerValue link')) = true := by
        rwa [show s.relocation + s.rel.addend - riscvGlobalPointerValue link' =
          s.relocation + (s.rel.addend - riscvGlobalPointerValue link') by bv_omega] at hgp
      obtain ⟨hover, hplaced⟩ := @rs1Of_place link' inp' s final (s.rel.addend - riscvGlobalPointerValue link') 3
        hgiven.given hgiven.inside hvalid
      refine iff_of_false ?_ (by simp [hzero, hgp])
      rintro (hbase | ⟨st', herr⟩)
      · exact absurd (hplaced.symm.trans hbase) (by decide)
      · exact hover st' herr
    · rw [if_neg hgp]
      exact iff_of_true (.inr ⟨final, rfl⟩) (.inr (by simpa using hgp))

end KeptOut

theorem weakSym_given : GivenBase weakLink weakInput 1 .lui weakState weakRela ⟨0, 0, .relax, 0⟩ weakSym weakFinal where
  off := rfl
  low := .inl rfl
  type := by decide
  given := rfl
  inside := by decide

theorem weakSym_keptOut_iff :
    GpKeptOut weakSym (relocatePlain weakLink weakInput weakFinal weakSym) ↔
      (validItypeImm 0x900 = true ∨ validItypeImm (0x900 - 0x1000) = false) :=
  relaxGp_keptOut_iff weakSym_given

/-- The symbol is at zero for the relaxation, whatever is added to it; in the end the sum decides, and gp is taken. -/
theorem weakSym_gp :
    GivenBase weakLink weakInput 1 .lui weakState weakRela ⟨0, 0, .relax, 0⟩ weakSym weakFinal ∧
      relocateOne weakLink weakInput weakFinal weakSym.rel = relocatePlain weakLink weakInput weakFinal weakSym ∧
      ¬ GpKeptOut weakSym (relocateOne weakLink weakInput weakFinal weakSym.rel) := by
  have hrun : relocateOne weakLink weakInput weakFinal weakSym.rel =
      .ok { weakFinal with contents := [0x13, 0x85, 0x01, 0x90] } := by rfl
  refine ⟨weakSym_given, by rw [hrun]; rfl, ?_⟩
  rw [hrun]
  rintro (hbase | ⟨st, herr⟩)
  · exact absurd hbase (by decide)
  · cases herr

end RiscvBinutils.Bfd
