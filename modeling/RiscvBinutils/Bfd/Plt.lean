/-
The code of the procedure linkage table (bfd/elfnn-riscv.c, `riscv_make_plt_header`, `riscv_make_plt_entry` and the
part of `riscv_elf_finish_dynamic_symbol` that places an entry).
An entry jumps through its `.got.plt` slot; while the slot still points to the header, the header finds out from
the return address which entry it was.
-/
import RiscvBinutils.Bfd.Exact
import RiscvBinutils.Bfd.Relax
import RiscvBinutils.Machine.Decode

namespace RiscvBinutils.Bfd

open RiscvBinutils.Base RiscvBinutils.Opcode RiscvBinutils.Machine

/-! ## The words -/

/-- `RISCV_RTYPE`, as a `uint32_t`. -/
def riscvRtype (insn rd rs1 rs2 : Vma) : BitVec 32 :=
  (insn ||| (rd <<< 7) ||| (rs1 <<< 15) ||| (rs2 <<< 20)).setWidth 32

/-- `RISCV_ITYPE`, as a `uint32_t`. -/
def riscvItype (insn rd rs1 imm : Vma) : BitVec 32 :=
  (insn ||| (rd <<< 7) ||| (rs1 <<< 15) ||| encodeItypeImm imm).setWidth 32

/-- `RISCV_UTYPE`, as a `uint32_t`. -/
def riscvUtype (insn rd bigimm : Vma) : BitVec 32 :=
  (insn ||| (rd <<< 7) ||| encodeUtypeImm bigimm).setWidth 32

def matchSub : Vma := 0x40000033
def matchAddi : Vma := 0x13
def matchSrli : Vma := 0x5013

/-- `MATCH_LREG`: `lw` or `ld`. -/
def matchLreg : Xlen → Vma
  | .rv32 => 0x2003
  | .rv64 => 0x3003

/-- `RISCV_ELF_LOG_WORD_BYTES`. -/
def logWordBytes : Xlen → Nat
  | .rv32 => 2
  | .rv64 => 3

/-- `RISCV_ELF_WORD_BYTES`, which is `GOT_ENTRY_SIZE` as well. -/
def wordBytes (xlen : Xlen) : Vma := 1 <<< logWordBytes xlen

/-- `RISCV_PCREL_HIGH_PART` and `RISCV_PCREL_LOW_PART`. -/
def pcrelHighPart (value pc : Vma) : Vma := constHighPart (value - pc)
def pcrelLowPart (value pc : Vma) : Vma := constLowPart (value - pc)

def pltHeaderSize : Vma := 32
def pltEntrySize : Vma := 16

/-- `riscv_make_plt_header`; `rve` is `EF_RISCV_RVE` of the output, which has no `t3`. -/
def riscvMakePltHeader (xlen : Xlen) (rve : Bool) (gotpltAddr addr : Vma) : Option (List (BitVec 32)) :=
  let high := pcrelHighPart gotpltAddr addr
  let low := pcrelLowPart gotpltAddr addr
  if rve then none
  else some
    [riscvUtype matchAuipc 7 high,
     riscvRtype matchSub 6 6 28,
     riscvItype (matchLreg xlen) 28 7 low,
     riscvItype matchAddi 6 6 ((-(pltHeaderSize + 12)).setWidth 32 |>.setWidth 64),
     riscvItype matchAddi 5 7 low,
     riscvItype matchSrli 6 6 (4 - BitVec.ofNat 64 (logWordBytes xlen)),
     riscvItype (matchLreg xlen) 5 5 (wordBytes xlen),
     riscvItype matchJalr 0 28 0]

/-- `riscv_make_plt_entry`. -/
def riscvMakePltEntry (xlen : Xlen) (rve : Bool) (got addr : Vma) : Option (List (BitVec 32)) :=
  if rve then none
  else some
    [riscvUtype matchAuipc 28 (pcrelHighPart got addr),
     riscvItype (matchLreg xlen) 28 28 (pcrelLowPart got addr),
     riscvItype matchJalr 6 28 0,
     riscvItype matchAddi 0 0 0]

/-- `riscv_elf_finish_dynamic_symbol`: the address of the `.got.plt` slot of the entry at `offset` in `.plt`. -/
def gotPltSlot (xlen : Xlen) (gotplt offset : Vma) : Vma :=
  let idx := (offset - pltHeaderSize) / pltEntrySize
  gotplt + (2 * wordBytes xlen + idx * wordBytes xlen)

/-! ## Decoding the words -/

section Words

theorem extractLsb_word {s n : Nat} (h : s + n ≤ 32) (x : Vma) :
    ((x.setWidth 32).setWidth 64).extractLsb' s n = x.extractLsb' s n := by
  apply BitVec.eq_of_getLsbD_eq
  intro i hi
  rw [BitVec.getLsbD_extractLsb', BitVec.getLsbD_extractLsb', BitVec.getLsbD_setWidth, BitVec.getLsbD_setWidth]
  simp [show s + i < 32 by omega, show s + i < 64 by omega]

/-- The bits outside of a scattered immediate. -/
theorem extractLsb_or_scatter {fs : List Field} {s n : Nat} (hf : Fits 64 fs)
    (hout : ∀ f ∈ fs, s + n ≤ f.pos ∨ f.pos + f.width ≤ s) (c x : Vma) :
    (c ||| scatter fs x).extractLsb' s n = c.extractLsb' s n := by
  apply BitVec.eq_of_getLsbD_eq
  intro i hi
  have hzero : (scatter fs x).getLsbD (s + i) = false :=
    getLsbD_scatter_outside x hf fun f hmem => by have := hout f hmem; omega
  rw [BitVec.getLsbD_extractLsb', BitVec.getLsbD_extractLsb', BitVec.getLsbD_or, hzero, Bool.or_false]

/-- The bits of one scattered field. -/
theorem extractLsb_or_field {imm n pos : Nat} (hf : Fits 64 [⟨imm, n, pos⟩]) {c : Vma}
    (hc : c.extractLsb' pos n = 0) (x : Vma) :
    (c ||| scatter [⟨imm, n, pos⟩] x).extractLsb' pos n = x.extractLsb' imm n := by
  apply BitVec.eq_of_getLsbD_eq
  intro i hi
  have hzero := congrArg (·.getLsbD i) hc
  simp only [BitVec.getLsbD_extractLsb', hi, decide_true, Bool.true_and] at hzero
  have hfield : (scatter [⟨imm, n, pos⟩] x).getLsbD (pos + i) = x.getLsbD (imm + i) :=
    getLsbD_scatter_field x hf (List.pairwise_singleton _ _) (List.mem_singleton.mpr rfl) hi
  rw [BitVec.getLsbD_extractLsb', BitVec.getLsbD_extractLsb', BitVec.getLsbD_or, hzero, hfield]
  simp

/-- The word holds the 32-bit instruction. -/
def Encodes (w : Nat) (word : BitVec 32) (i : Instr) : Prop :=
  (word.setWidth 64).extractLsb' 0 2 = 3#2 ∧ decode w (word.setWidth 64) = some i

instance (w : Nat) (word : BitVec 32) (i : Instr) : Decidable (Encodes w word i) :=
  inferInstanceAs (Decidable (_ ∧ _))

/-- An I-type word without its immediate. -/
def ItypeHead (c : Vma) (opcode : BitVec 7) (funct3 : BitVec 3) (rd rs1 : Reg) : Prop :=
  c.extractLsb' 0 2 = 3#2 ∧ c.extractLsb' 0 7 = opcode ∧ c.extractLsb' 7 5 = rd ∧ c.extractLsb' 12 3 = funct3 ∧
    c.extractLsb' 15 5 = rs1 ∧ c.extractLsb' 20 12 = 0#12

instance (c : Vma) (opcode : BitVec 7) (funct3 : BitVec 3) (rd rs1 : Reg) :
    Decidable (ItypeHead c opcode funct3 rd rs1) :=
  inferInstanceAs (Decidable (_ ∧ _))

/-- The head of an I-type word stays, and the immediate is the one given. -/
theorem riscvItype_extract {insn rd rs1 : Vma} {opcode : BitVec 7} {funct3 : BitVec 3} {r b : Reg}
    (h : ItypeHead (insn ||| (rd <<< 7) ||| (rs1 <<< 15)) opcode funct3 r b) (x : Vma) :
    ((riscvItype insn rd rs1 x).setWidth 64).extractLsb' 0 2 = 3#2 ∧
      ((riscvItype insn rd rs1 x).setWidth 64).extractLsb' 0 7 = opcode ∧
      ((riscvItype insn rd rs1 x).setWidth 64).extractLsb' 7 5 = r ∧
      ((riscvItype insn rd rs1 x).setWidth 64).extractLsb' 12 3 = funct3 ∧
      ((riscvItype insn rd rs1 x).setWidth 64).extractLsb' 15 5 = b ∧
      ((riscvItype insn rd rs1 x).setWidth 64).extractLsb' 20 12 = x.extractLsb' 0 12 := by
  obtain ⟨hlow, hop, hrd, hfunct, hrs, himm⟩ := h
  have hhead (s n : Nat) (hle : s + n ≤ 20) : ((riscvItype insn rd rs1 x).setWidth 64).extractLsb' s n =
      (insn ||| (rd <<< 7) ||| (rs1 <<< 15)).extractLsb' s n := by
    rw [riscvItype, extractLsb_word (by omega)]
    refine extractLsb_or_scatter itype_format.fits (fun f hf => ?_) _ x
    rw [List.mem_singleton.mp hf]
    exact .inl hle
  refine ⟨(hhead 0 2 (by decide)).trans hlow, (hhead 0 7 (by decide)).trans hop, (hhead 7 5 (by decide)).trans hrd,
    (hhead 12 3 (by decide)).trans hfunct, (hhead 15 5 (by decide)).trans hrs, ?_⟩
  rw [riscvItype, extractLsb_word (by decide)]
  exact extractLsb_or_field itype_format.fits himm x

theorem encodes_addi (w : Nat) {rd rs1 : Vma} {r b : Reg}
    (h : ItypeHead (matchAddi ||| (rd <<< 7) ||| (rs1 <<< 15)) 0x13 0 r b) (x : Vma) :
    Encodes w (riscvItype matchAddi rd rs1 x) (.addi r b (x.extractLsb' 0 12)) := by
  obtain ⟨hlow, hop, hrd, hfunct, hrs, himm⟩ := riscvItype_extract h x
  refine ⟨hlow, ?_⟩
  rw [decode_addi hop hfunct, Machine.rdOf, rs1Of, immOf, hrd, hrs, himm]

theorem encodes_load (xlen : Xlen) {rd rs1 : Vma} {r b : Reg}
    (h : ItypeHead (matchLreg xlen ||| (rd <<< 7) ||| (rs1 <<< 15)) 0x03 (if xlen.bits = 32 then 2 else 3) r b)
    (x : Vma) : Encodes xlen.bits (riscvItype (matchLreg xlen) rd rs1 x) (.load r b (x.extractLsb' 0 12)) := by
  obtain ⟨hlow, hop, hrd, hfunct, hrs, himm⟩ := riscvItype_extract h x
  refine ⟨hlow, ?_⟩
  rw [decode_load hop hfunct, Machine.rdOf, rs1Of, immOf, hrd, hrs, himm]

theorem encodes_auipc (w : Nat) {rd : Vma} {r : Reg}
    (h : (matchAuipc ||| (rd <<< 7)).extractLsb' 0 2 = 3#2 ∧ (matchAuipc ||| (rd <<< 7)).extractLsb' 0 7 = 0x17#7 ∧
      (matchAuipc ||| (rd <<< 7)).extractLsb' 7 5 = r ∧ (matchAuipc ||| (rd <<< 7)).extractLsb' 12 20 = 0#20)
    (x : Vma) :
    Encodes w (riscvUtype matchAuipc rd x) (.auipc r (x.extractLsb' 12 20)) := by
  obtain ⟨hlow, hop, hrd, hzero⟩ := h
  have hhead (s n : Nat) (hle : s + n ≤ 12) : ((riscvUtype matchAuipc rd x).setWidth 64).extractLsb' s n =
      (matchAuipc ||| (rd <<< 7)).extractLsb' s n := by
    rw [riscvUtype, extractLsb_word (by omega)]
    refine extractLsb_or_scatter utype_format.fits (fun f hf => ?_) _ x
    rw [List.mem_singleton.mp hf]
    exact .inl hle
  have himm : ((riscvUtype matchAuipc rd x).setWidth 64).extractLsb' 12 20 = x.extractLsb' 12 20 := by
    rw [riscvUtype, extractLsb_word (by decide)]
    exact extractLsb_or_field utype_format.fits hzero x
  refine ⟨(hhead 0 2 (by decide)).trans hlow, ?_⟩
  rw [decode_auipc ((hhead 0 7 (by decide)).trans hop), Machine.rdOf, upperOf, hhead 7 5 (by decide), hrd, himm]

end Words

/-! ## What the code computes -/

/-- The header, as instructions. -/
def pltHeaderCode (xlen : Xlen) (d : Vma) : List Instr :=
  [.auipc 7 ((constHighPart d).extractLsb' 12 20),
   .sub 6 6 28,
   .load 28 7 ((constLowPart d).extractLsb' 0 12),
   .addi 6 6 (BitVec.ofInt 12 (-44)),
   .addi 5 7 ((constLowPart d).extractLsb' 0 12),
   .srli 6 6 (BitVec.ofNat 6 (4 - logWordBytes xlen)),
   .load 5 5 (BitVec.ofNat 12 (2 ^ logWordBytes xlen)),
   .jalr 0 28 0]

/-- An entry, as instructions. -/
def pltEntryCode (d : Vma) : List Instr :=
  [.auipc 28 ((constHighPart d).extractLsb' 12 20),
   .load 28 28 ((constLowPart d).extractLsb' 0 12),
   .jalr 6 28 0,
   .addi 0 0 0]

theorem riscvMakePltHeader_encodes {xlen : Xlen} {rve : Bool} {gotplt addr : Vma} {words : List (BitVec 32)}
    (h : riscvMakePltHeader xlen rve gotplt addr = some words) :
    List.Forall₂ (Encodes xlen.bits) words (pltHeaderCode xlen (gotplt - addr)) := by
  cases rve with
  | true => cases h
  | false =>
    obtain rfl := Option.some.inj h
    have hauipc : Encodes xlen.bits (riscvUtype matchAuipc 7 _) (.auipc 7 _) :=
      encodes_auipc xlen.bits (by decide) (constHighPart (gotplt - addr))
    have hload : Encodes xlen.bits (riscvItype (matchLreg xlen) 28 7 _) (.load 28 7 _) :=
      encodes_load xlen (by cases xlen <;> decide) (constLowPart (gotplt - addr))
    have haddi : Encodes xlen.bits (riscvItype matchAddi 5 7 _) (.addi 5 7 _) :=
      encodes_addi xlen.bits (by decide) (constLowPart (gotplt - addr))
    -- the other words are constants of the target
    refine .cons hauipc (.cons ?_ (.cons hload (.cons ?_ (.cons haddi (.cons ?_ (.cons ?_ (.cons ?_ .nil)))))))
    all_goals cases xlen <;> decide

theorem riscvMakePltEntry_encodes {xlen : Xlen} {rve : Bool} {got addr : Vma} {words : List (BitVec 32)}
    (h : riscvMakePltEntry xlen rve got addr = some words) :
    List.Forall₂ (Encodes xlen.bits) words (pltEntryCode (got - addr)) := by
  cases rve with
  | true => cases h
  | false =>
    obtain rfl := Option.some.inj h
    have hauipc : Encodes xlen.bits (riscvUtype matchAuipc 28 _) (.auipc 28 _) :=
      encodes_auipc xlen.bits (by decide) (constHighPart (got - addr))
    have hload : Encodes xlen.bits (riscvItype (matchLreg xlen) 28 28 _) (.load 28 28 _) :=
      encodes_load xlen (by cases xlen <;> decide) (constLowPart (got - addr))
    refine .cons hauipc (.cons hload (.cons ?_ (.cons ?_ .nil)))
    all_goals cases xlen <;> decide

/-- The two parts of a distance in reach add up to it. -/
theorem upper_add_low {xlen : Xlen} {d : Vma} (h : InHighRange xlen d) :
    upper xlen.bits ((constHighPart d).extractLsb' 12 20) + ((constLowPart d).extractLsb' 0 12).signExtend xlen.bits =
      d.setWidth xlen.bits := by
  have hmod := constHighPart_mod d
  have hhigh : (constHighPart d).extractLsb' 12 20 ++ (0 : BitVec 12) = (constHighPart d).setWidth 32 := by
    apply BitVec.eq_of_toNat_eq
    rw [BitVec.toNat_append, BitVec.extractLsb'_toNat, BitVec.toNat_setWidth, Nat.shiftRight_eq_div_pow,
      Nat.shiftLeft_eq]
    simp only [BitVec.ofNat_eq_ofNat, BitVec.toNat_ofNat, Nat.zero_mod, Nat.or_zero]
    omega
  have hlow : (constLowPart d).extractLsb' 0 12 = d.setWidth 12 := by
    have hsum := constHighPart_add_sext d
    have hsub : constLowPart d = sext 12 d := by
      rw [constLowPart]
      nth_rewrite 1 [← hsum]
      rw [BitVec.add_comm, BitVec.add_sub_cancel]
    have hfirst : (sext 12 d).extractLsb' 0 12 = (sext 12 d).setWidth 12 := by
      apply BitVec.eq_of_getLsbD_eq
      intro i hi
      simp [hi]
    rw [hsub, hfirst, sext, setWidth_signExtend _ (by decide), BitVec.signExtend_eq]
  rw [upper, hhigh, hlow]
  cases xlen with
  | rv64 =>
    have hsum : sext 32 (constHighPart d) + sext 12 d = d := sext_high_add_low h
    change sext 32 (constHighPart d) + sext 12 d = d.setWidth 64
    rw [hsum, BitVec.setWidth_eq]
  | rv32 =>
    change ((constHighPart d).setWidth 32).signExtend 32 + (d.setWidth 12).signExtend 32 = d.setWidth 32
    rw [BitVec.signExtend_eq, constHighPart_add_low_32]

/-- A pair of parts reaches the address it was split from. -/
theorem pcrel_address {xlen : Xlen} {target pc : Vma} (h : InHighRange xlen (target - pc)) :
    pc.setWidth xlen.bits + upper xlen.bits ((constHighPart (target - pc)).extractLsb' 12 20) +
      ((constLowPart (target - pc)).extractLsb' 0 12).signExtend xlen.bits = target.setWidth xlen.bits := by
  have hle : xlen.bits ≤ 64 := by cases xlen <;> decide
  rw [BitVec.add_assoc, upper_add_low h, ← BitVec.setWidth_add _ _ hle]
  congr 1
  rw [BitVec.add_comm, BitVec.sub_add_cancel]

section Run

variable {w : Nat} {fetch : BitVec w → BitVec 64} {mem : BitVec w → BitVec w}

/-- The words stand in memory from the address on. -/
def PlacedAt (fetch : BitVec w → BitVec 64) (base : BitVec w) (words : List (BitVec 32)) : Prop :=
  ∀ k < words.length, fetch (base + BitVec.ofNat w (4 * k)) = (words.getD k 0).setWidth 64

instance (fetch : BitVec w → BitVec 64) (base : BitVec w) (words : List (BitVec 32)) :
    Decidable (PlacedAt fetch base words) :=
  inferInstanceAs (Decidable (∀ k < words.length, _))

theorem run_words {words : List (BitVec 32)} {code : List Instr} {base : BitVec w} {s : State w}
    (hcode : List.Forall₂ (Encodes w) words code) (hplaced : PlacedAt fetch base words)
    (hstraight : ∀ i ∈ code.dropLast, i.straight) (hs : s.pc = base) :
    run fetch mem code.length s = some (execAll mem s code) := by
  refine run_execAll hstraight hs fun k i hi => ?_
  obtain ⟨hlt, rfl⟩ := List.getElem?_eq_some_iff.mp hi
  have hlt' : k < words.length := hcode.length_eq ▸ hlt
  have hboth : Encodes w words[k] code[k] := hcode.get hlt' hlt
  rw [hplaced k hlt', List.getD_eq_getElem?_getD, List.getElem?_eq_getElem hlt']
  exact hboth

theorem PlacedAt.take {base : BitVec w} {words : List (BitVec 32)} (h : PlacedAt fetch base words) (n : Nat) :
    PlacedAt fetch base (words.take n) := by
  intro k hk
  rw [List.length_take] at hk
  rw [h k (by omega), List.getD_eq_getElem?_getD, List.getD_eq_getElem?_getD, List.getElem?_take_of_lt (by omega)]

end Run

/-- The offset of entry `i` in `.plt`. -/
def pltEntryOffset (i : Nat) : Vma := pltHeaderSize + pltEntrySize * BitVec.ofNat 64 i

/-- The address of slot `i` of `.got.plt`, after the two slots of the header. -/
def slotAddress (xlen : Xlen) (gotplt : Vma) (i : Nat) : Vma :=
  gotplt + BitVec.ofNat 64 (2 + i) * wordBytes xlen

/-- The header and entry `i` stand in memory as they were made. -/
structure PltImage (xlen : Xlen) (plt gotplt : Vma) (i : Nat) (fetch : BitVec xlen.bits → BitVec 64) : Prop where
  header : ∃ rve words, riscvMakePltHeader xlen rve gotplt plt = some words ∧
    PlacedAt fetch (plt.setWidth xlen.bits) words
  entry : ∃ rve words,
    riscvMakePltEntry xlen rve (gotPltSlot xlen gotplt (pltEntryOffset i)) (plt + pltEntryOffset i) = some words ∧
      PlacedAt fetch ((plt + pltEntryOffset i).setWidth xlen.bits) words

/-- What the comments promise: through a slot that still points to the header, the resolver in `.got.plt[0]` is
reached with the offset of the slot in `t1` and the link map in `t0`; through a slot that is bound, the function. -/
structure PltPromise (xlen : Xlen) (plt gotplt : Vma) (i : Nat) : Prop where
  resolves : ∀ (fetch : BitVec xlen.bits → BitVec 64) (mem : BitVec xlen.bits → BitVec xlen.bits)
    (s : State xlen.bits), PltImage xlen plt gotplt i fetch → s.pc = (plt + pltEntryOffset i).setWidth xlen.bits →
    mem ((slotAddress xlen gotplt i).setWidth xlen.bits) = plt.setWidth xlen.bits →
    ∃ s₁ s₂, run fetch mem 3 s = some s₁ ∧ s₁.pc = plt.setWidth xlen.bits ∧ run fetch mem 8 s₁ = some s₂ ∧
      s₂.pc = mem (gotplt.setWidth xlen.bits) &&& ~~~1 ∧
      s₂.get 6 = BitVec.ofNat xlen.bits (i * 2 ^ logWordBytes xlen) ∧
      s₂.get 5 = mem ((gotplt + wordBytes xlen).setWidth xlen.bits) ∧
      ∀ q : Reg, q ≠ 5 → q ≠ 6 → q ≠ 7 → q ≠ 28 → s₂.get q = s.get q
  jumps : ∀ (fetch : BitVec xlen.bits → BitVec 64) (mem : BitVec xlen.bits → BitVec xlen.bits)
    (s : State xlen.bits) (f : BitVec xlen.bits), PltImage xlen plt gotplt i fetch →
    s.pc = (plt + pltEntryOffset i).setWidth xlen.bits →
    mem ((slotAddress xlen gotplt i).setWidth xlen.bits) = f →
    ∃ s₁, run fetch mem 3 s = some s₁ ∧ s₁.pc = f &&& ~~~1 ∧
      s₁.get 6 = (plt + pltEntryOffset i).setWidth xlen.bits + 12 ∧
      ∀ q : Reg, q ≠ 6 → q ≠ 28 → s₁.get q = s.get q

section Promise

variable {xlen : Xlen} {plt gotplt : Vma} {i : Nat}

theorem gotPltSlot_pltEntryOffset (hi : 32 + 16 * i < 2 ^ 64) :
    gotPltSlot xlen gotplt (pltEntryOffset i) = slotAddress xlen gotplt i := by
  have hidx : (pltEntryOffset i - pltHeaderSize) / pltEntrySize = BitVec.ofNat 64 i := by
    apply BitVec.eq_of_toNat_eq
    rw [pltEntryOffset, BitVec.toNat_udiv, pltHeaderSize, pltEntrySize, BitVec.add_comm, BitVec.add_sub_cancel,
      BitVec.toNat_mul, BitVec.toNat_ofNat]
    simp only [BitVec.ofNat_eq_ofNat, BitVec.toNat_ofNat, Nat.reducePow, Nat.reduceMod]
    omega
  rw [gotPltSlot, hidx, slotAddress, BitVec.ofNat_add]
  congr 1
  exact (BitVec.add_mul ..).symm

/-- The entry, up to its jump. -/
theorem entry_run {fetch : BitVec xlen.bits → BitVec 64} (mem : BitVec xlen.bits → BitVec xlen.bits)
    {s : State xlen.bits} (hi : 32 + 16 * i < 2 ^ 64)
    (hnear : InHighRange xlen (slotAddress xlen gotplt i - (plt + pltEntryOffset i)))
    (himage : PltImage xlen plt gotplt i fetch) (hs : s.pc = (plt + pltEntryOffset i).setWidth xlen.bits) :
    ∃ s₁, run fetch mem 3 s = some s₁ ∧ s₁.pc = mem ((slotAddress xlen gotplt i).setWidth xlen.bits) &&& ~~~1 ∧
      s₁.get 6 = (plt + pltEntryOffset i).setWidth xlen.bits + 12 ∧
      s₁.get 28 = mem ((slotAddress xlen gotplt i).setWidth xlen.bits) ∧
      ∀ q : Reg, q ≠ 6 → q ≠ 28 → s₁.get q = s.get q := by
  obtain ⟨rve, words, hwords, hplaced⟩ := himage.entry
  rw [gotPltSlot_pltEntryOffset hi] at hwords
  have hcode := List.forall₂_take 3 (riscvMakePltEntry_encodes hwords)
  have hstraight : ∀ j ∈ ((pltEntryCode (slotAddress xlen gotplt i - (plt + pltEntryOffset i))).take 3).dropLast,
      j.straight := by
    simp [pltEntryCode, Instr.straight]
  have hrun : run fetch mem 3 s = some _ := run_words hcode (hplaced.take 3) hstraight hs
  have haddr := pcrel_address hnear
  rw [← hs] at haddr ⊢
  have hzero : (0#12).signExtend xlen.bits = 0#_ := by cases xlen <;> rfl
  have hlink : 4#(xlen.bits) + (4#(xlen.bits) + 4#(xlen.bits)) = 12#(xlen.bits) := by cases xlen <;> rfl
  refine ⟨_, hrun, ?_, ?_, ?_, fun q (hq : q ≠ 6#5) (hq' : q ≠ 28#5) => ?_⟩
  · simp [pltEntryCode, execAll, exec, haddr, hzero]
  · simp [pltEntryCode, execAll, exec, BitVec.add_assoc, hlink]
  · simp [pltEntryCode, execAll, exec, haddr]
  · simp [pltEntryCode, execAll, exec, hq, hq']

/-- The header, from where an entry leaves off. -/
theorem header_run {fetch : BitVec xlen.bits → BitVec 64} (mem : BitVec xlen.bits → BitVec xlen.bits)
    {s : State xlen.bits} (hnear : InHighRange xlen (gotplt - plt)) (himage : PltImage xlen plt gotplt i fetch)
    (hs : s.pc = plt.setWidth xlen.bits) :
    ∃ s₂, run fetch mem 8 s = some s₂ ∧ s₂.pc = mem (gotplt.setWidth xlen.bits) &&& ~~~1 ∧
      s₂.get 6 = (s.get 6 - s.get 28 - 44) >>> (4 - logWordBytes xlen) ∧
      s₂.get 5 = mem ((gotplt + wordBytes xlen).setWidth xlen.bits) ∧
      ∀ q : Reg, q ≠ 5 → q ≠ 6 → q ≠ 7 → q ≠ 28 → s₂.get q = s.get q := by
  obtain ⟨rve, words, hwords, hplaced⟩ := himage.header
  have hcode := riscvMakePltHeader_encodes hwords
  have hstraight : ∀ j ∈ (pltHeaderCode xlen (gotplt - plt)).dropLast, j.straight := by
    simp [pltHeaderCode, Instr.straight]
  have hrun : run fetch mem 8 s = some _ := run_words hcode hplaced hstraight hs
  have haddr := pcrel_address hnear
  rw [← hs] at haddr
  have hzero : (0#12).signExtend xlen.bits = 0#_ := by cases xlen <;> rfl
  have hword : (BitVec.ofNat 12 (2 ^ logWordBytes xlen)).signExtend xlen.bits =
    (wordBytes xlen).setWidth xlen.bits := by
    cases xlen <;> rfl
  have hsize : (4052#12).signExtend xlen.bits = -44#(xlen.bits) := by cases xlen <;> rfl
  have hle : xlen.bits ≤ 64 := by cases xlen <;> decide
  have hshift : (BitVec.ofNat 6 (4 - logWordBytes xlen)).toNat = 4 - logWordBytes xlen := by cases xlen <;> rfl
  refine ⟨_, hrun, ?_, ?_, ?_, fun q (h5 : q ≠ 5#5) (h6 : q ≠ 6#5) (h7 : q ≠ 7#5) (h28 : q ≠ 28#5) => ?_⟩
  · simp [pltHeaderCode, execAll, exec, haddr, hzero]
  · simp [pltHeaderCode, execAll, exec, hsize, hshift, BitVec.sub_eq_add_neg]
  · -- the offset is not to be rewritten before its value is used
    simp only [pltHeaderCode]
    generalize BitVec.ofNat 12 (2 ^ logWordBytes xlen) = offset at hword ⊢
    simp [execAll, exec, haddr, hword, BitVec.setWidth_add _ _ hle]
  · by_cases h0 : q = 0#5
    · rw [h0]
      rfl
    · simp [pltHeaderCode, execAll, exec, h0, h5, h6, h7, h28]

/-- The return address tells the entry. -/
theorem entry_index (hi : 32 + 16 * i < 2 ^ xlen.bits) :
    ((plt + pltEntryOffset i).setWidth xlen.bits + 12 - plt.setWidth xlen.bits - 44) >>> (4 - logWordBytes xlen) =
      BitVec.ofNat xlen.bits (i * 2 ^ logWordBytes xlen) := by
  have hle : xlen.bits ≤ 64 := by cases xlen <;> decide
  have hoff : (pltEntryOffset i).setWidth xlen.bits = 32 + BitVec.ofNat xlen.bits (16 * i) := by
    have hsize : pltHeaderSize.setWidth xlen.bits = 32 ∧ pltEntrySize.setWidth xlen.bits =
      BitVec.ofNat xlen.bits 16 := by
      cases xlen <;> exact ⟨rfl, rfl⟩
    rw [pltEntryOffset, BitVec.setWidth_add _ _ hle, BitVec.setWidth_mul _ _ hle, BitVec.setWidth_ofNat_of_le hle,
      hsize.1, hsize.2, BitVec.ofNat_mul]
  have hconst : (32 : BitVec xlen.bits) + 12 - 44 = 0 := by cases xlen <;> rfl
  have hdist : (plt + pltEntryOffset i).setWidth xlen.bits + 12 - plt.setWidth xlen.bits - 44 =
      BitVec.ofNat xlen.bits (16 * i) := by
    rw [BitVec.setWidth_add _ _ hle, hoff]
    calc plt.setWidth xlen.bits + (32 + BitVec.ofNat xlen.bits (16 * i)) + 12 - plt.setWidth xlen.bits - 44
        = BitVec.ofNat xlen.bits (16 * i) + (32 + 12 - 44) := by grind
      _ = BitVec.ofNat xlen.bits (16 * i) := by rw [hconst]; exact BitVec.add_zero _
  rw [hdist]
  apply BitVec.eq_of_toNat_eq
  rw [BitVec.toNat_ushiftRight, BitVec.toNat_ofNat, BitVec.toNat_ofNat, Nat.shiftRight_eq_div_pow,
    Nat.mod_eq_of_lt (by omega)]
  cases xlen with
  | rv32 =>
    have hlt : 32 + 16 * i < 2 ^ 32 := hi
    change 16 * i / 4 = i * 4 % 2 ^ 32
    omega
  | rv64 =>
    have hlt : 32 + 16 * i < 2 ^ 64 := hi
    change 16 * i / 2 = i * 8 % 2 ^ 64
    omega

/-- A jump to an even address goes there. -/
theorem clear_even {plt : Vma} (heven : plt.toNat % 2 = 0) :
    plt.setWidth xlen.bits &&& ~~~1 = plt.setWidth xlen.bits := by
  have hbit : plt.getLsbD 0 = false := (low_bits_zero_iff plt 1).mpr heven 0 (by decide)
  apply BitVec.eq_of_getLsbD_eq
  intro k hk
  rw [BitVec.getLsbD_and, BitVec.getLsbD_not, BitVec.getLsbD_setWidth]
  cases k with
  | zero => rw [hbit, Bool.and_false, Bool.false_and]
  | succ k => simp [hk]

/-- The PLT keeps its promises for every entry that lies in the address space, when the header and the entry reach
`.got.plt` and the header stands at an even address. -/
theorem plt_promise (heven : plt.toNat % 2 = 0) (hi : 32 + 16 * i < 2 ^ xlen.bits)
    (hheader : InHighRange xlen (gotplt - plt))
    (hentry : InHighRange xlen (slotAddress xlen gotplt i - (plt + pltEntryOffset i))) :
    PltPromise xlen plt gotplt i := by
  have hi64 : 32 + 16 * i < 2 ^ 64 := by
    cases xlen with
    | rv32 =>
      have hlt : 32 + 16 * i < 2 ^ 32 := hi
      omega
    | rv64 => exact hi
  constructor
  · intro fetch mem s himage hs hslot
    obtain ⟨s₁, hrun, hpc, h6, h28, hothers⟩ := entry_run mem hi64 hentry himage hs
    rw [hslot] at hpc h28
    rw [clear_even heven] at hpc
    obtain ⟨s₂, hrun', hpc', h6', h5', hothers'⟩ := header_run mem hheader himage hpc
    refine ⟨s₁, s₂, hrun, hpc, hrun', hpc', ?_, h5', fun q q5 q6 q7 q28 => ?_⟩
    · rw [h6', h6, h28, entry_index hi]
    · rw [hothers' q q5 q6 q7 q28, hothers q q6 q28]
  · intro fetch mem s f himage hs hslot
    obtain ⟨s₁, hrun, hpc, h6, -, hothers⟩ := entry_run mem hi64 hentry himage hs
    rw [hslot] at hpc
    exact ⟨s₁, hrun, hpc, h6, hothers⟩

end Promise

/-- A memory with the header and entry `i` in it, and nothing else. -/
def pltFetch (xlen : Xlen) (plt gotplt : Vma) (i : Nat) (a : BitVec xlen.bits) : BitVec 64 :=
  let header := (riscvMakePltHeader xlen false gotplt plt).getD []
  let entry := (riscvMakePltEntry xlen false (gotPltSlot xlen gotplt (pltEntryOffset i))
    (plt + pltEntryOffset i)).getD []
  let k := (a - plt.setWidth xlen.bits).toNat / 4
  let j := (a - (plt + pltEntryOffset i).setWidth xlen.bits).toNat / 4
  if k < header.length then (header.getD k 0).setWidth 64 else (entry.getD j 0).setWidth 64

theorem plt_promise_rv32 :
    PltImage .rv32 0x10000 0x20800 3 (pltFetch .rv32 0x10000 0x20800 3) ∧ PltPromise .rv32 0x10000 0x20800 3 :=
  ⟨⟨⟨false, _, rfl, by decide⟩, ⟨false, _, rfl, by decide⟩⟩,
    plt_promise (by decide) (by decide) (fun h => absurd h (by decide)) fun h => absurd h (by decide)⟩

/-- A memory with one word in it. -/
def oneWord (slot f a : BitVec 64) : BitVec 64 := if a = slot then f else 0

/-- At a distance just below 2 GiB the upper part turns negative, and the entry loads from the wrong address. -/
theorem plt_last_page_unreached :
    (0x7ffff810 - 0 : Vma).toInt < 2 ^ 31 ∧
      (slotAddress .rv64 0x7ffff810 0 - (0 + pltEntryOffset 0)).toInt < 2 ^ 31 ∧
      ¬ PltPromise .rv64 0 0x7ffff810 0 := by
  refine ⟨by decide, by decide, fun h => ?_⟩
  obtain ⟨s₁, hrun, hpc, -⟩ := h.jumps (pltFetch .rv64 0 0x7ffff810 0) (oneWord 0x7ffff820 0x1000)
    ⟨32, fun _ => 0⟩ 0x1000
    ⟨⟨false, _, rfl, by decide⟩, ⟨false, _, rfl, by decide⟩⟩ (by decide) rfl
  have hwrong : (run (pltFetch .rv64 0 0x7ffff810 0) (oneWord 0x7ffff820 0x1000) 3 ⟨32, fun _ => 0⟩).map (·.pc) =
      some 0 := by decide
  rw [hrun, Option.map_some, hpc] at hwrong
  exact absurd hwrong (by decide)

end RiscvBinutils.Bfd
