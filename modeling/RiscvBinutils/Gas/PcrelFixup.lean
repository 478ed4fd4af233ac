/-
Resolving `%pcrel_hi` and `%pcrel_lo` in the assembler (gas/config/tc-riscv.c, `md_apply_fix`).
Without link-time relaxation a high part against a local symbol of its section is resolved at once, and a
low part when its high part has been recorded.  The results say when a resolved pair adds up to the
distance it stands for, and when a high part is dropped without its low parts.
-/
import RiscvBinutils.Gas.Fixup

namespace RiscvBinutils.Gas

open RiscvBinutils.Base RiscvBinutils.Opcode RiscvBinutils.Bfd

/-! ## Statement -/

def RelocCode.isPcrelLo : RelocCode → Bool
  | .pcrelLo12I | .pcrelLo12S => true
  | _ => false

/-- The fixup of a call has been marked `fx_done`. -/
def DoneAt (opts : FixOpts) (segs : List Segment) (k j : Nat) : Prop :=
  ∃ r f n, (fixSegments opts segs [])[k]? = some r ∧ r.2[j]? = some (f, n) ∧ f.done = true

/-- The instruction word at an address of a section in the end. -/
def finalWord (opts : FixOpts) (segs : List Segment) (k : Nat) (address : Vma) : Vma :=
  match (fixSegments opts segs [])[k]? with
  | none => 0
  | some r => getl 4 r.1.contents address.toNat

/-- The state in which call `j` of section `b` is made, after the sections before it. -/
def stateAt (opts : FixOpts) (before : List Segment) (b : Segment) (j : Nat) : FixState :=
  (fixupSegment opts b.seg (b.calls.take j) { contents := b.contents, hiFixups := recordsAfter opts before [] }).1

/-- The record that a low part with label `l` finds. -/
def usedHi (opts : FixOpts) (before : List Segment) (b : Segment) (j : Nat) (l : Symbol) (val : Vma) :
    Option PcrelHiFixup :=
  riscvFindPcrelFixup (stateAt opts before b j).hiFixups (l.value + val)

/-- The immediate of the low instruction, in its own format. -/
def lowImm : RelocCode → Vma → Vma
  | .pcrelLo12S => extractStypeImm
  | _ => extractItypeImm

def lowFields : RelocCode → List Field
  | .pcrelLo12S => [⟨0, 5, 7⟩, ⟨5, 7, 25⟩]
  | _ => [⟨0, 12, 20⟩]

/-- Two words have the same bits outside the fields. -/
def SameElsewhere (fs : List Field) (x y : Vma) : Prop :=
  ∀ i < 32, (∀ f ∈ fs, i < f.pos ∨ f.pos + f.width ≤ i) → x.getLsbD i = y.getLsbD i

/-- Equal as addresses: registers of RV32 have 32 bits. -/
def SameAddress : Xlen → Vma → Vma → Prop
  | .rv32, x, y => x.setWidth 32 = y.setWidth 32
  | .rv64, x, y => x = y

/-- The high part `hi`, call `i` of section `k`, is the one that the label of `lo` designates. -/
structure Designates (segs : List Segment) (lo : FixCall) (k i : Nat) (b : Segment) (hi : FixCall) : Prop where
  seg : segs[k]? = some b
  call : b.calls[i]? = some hi
  type : hi.fix.rType = .pcrelHi20
  label : ∃ l, lo.fix.addsy = some l ∧ l.seg = b.seg ∧ l.value = hi.fix.address

/-- `lo` is a low part, call `j` of section `k`. -/
structure LowAt (segs : List Segment) (k j : Nat) (b : Segment) (lo : FixCall) : Prop where
  seg : segs[k]? = some b
  call : b.calls[j]? = some lo
  type : lo.fix.rType.isPcrelLo = true

/-- Resolution is exact: a resolved low part belongs to the high part at its label, which is resolved too; the
two immediates add up to the distance from there to the target, the addend included; no other bit of the low
instruction changes.  And no high part is dropped without all of its low parts. -/
structure PcrelExact (xlen : Xlen) (opts : FixOpts) (segs : List Segment) : Prop where
  exact : ∀ k j b lo, LowAt segs k j b lo → DoneAt opts segs k j →
    ∃ i hi, Designates segs lo k i b hi ∧ DoneAt opts segs k i ∧
      (∃ l e, lo.fix.addsy = some l ∧ usedHi opts (segs.take k) b j l lo.val = some e ∧ e.address = hi.fix.address) ∧
      (∃ s, hi.fix.addsy = some s ∧
        SameAddress xlen
          (extractUtypeImm (finalWord opts segs k hi.fix.address) +
            lowImm lo.fix.rType (finalWord opts segs k lo.fix.address))
          (s.value + hi.val + lo.val - hi.fix.address)) ∧
      SameElsewhere (lowFields lo.fix.rType) (finalWord opts segs k lo.fix.address)
        (getl 4 b.contents lo.fix.address.toNat)
  dropped : ∀ k i b hi k' j b' lo, LowAt segs k' j b' lo → Designates segs lo k i b hi → DoneAt opts segs k i →
    DoneAt opts segs k' j

/-- The fixups as `append_insn` makes them: each on an instruction of its own, whose immediate is still
empty. -/
structure FixupsWf (segs : List Segment) : Prop where
  distinct : (segs.map (·.seg)).Nodup
  new : ∀ b ∈ segs, ∀ c ∈ b.calls, c.fix.done = false
  inside : ∀ b ∈ segs, ∀ c ∈ b.calls, c.fix.address.toNat + c.fix.extent ≤ b.contents.length
  apart : ∀ b ∈ segs, b.calls.Pairwise fun c d => c.fix.extent = 0 ∨ d.fix.extent = 0 ∨
    c.fix.address.toNat + c.fix.extent ≤ d.fix.address.toNat ∨
    d.fix.address.toNat + d.fix.extent ≤ c.fix.address.toNat
  high : ∀ b ∈ segs, ∀ c ∈ b.calls, c.fix.rType = .pcrelHi20 →
    AgreeOn [⟨12, 20, 12⟩] (getl 4 b.contents c.fix.address.toNat) 0
  low : ∀ b ∈ segs, ∀ c ∈ b.calls, c.fix.rType.isPcrelLo = true →
    AgreeOn (lowFields c.fix.rType) (getl 4 b.contents c.fix.address.toNat) 0

/-- The distance that a recorded high part stands for. -/
def PcrelHiFixup.distance (e : PcrelHiFixup) : Vma := e.target - e.address

/-- When resolution is exact.  For each low part: where its label designates a high part that is resolved, the
two are in one section, the high part first, the low part has no addend, a store's distance is a multiple of 32
and the distance is within reach; and no other resolved high part stands at label plus addend. -/
def PcrelPlain (xlen : Xlen) (segs : List Segment) : Prop :=
  ∀ k' j b' lo l, LowAt segs k' j b' lo → lo.fix.addsy = some l →
    (∀ k i b hi e, Designates segs lo k i b hi → hi.fix.records b.seg hi.val = some e →
      k = k' ∧ i < j ∧ lo.val = 0 ∧ (lo.fix.rType = .pcrelLo12S → e.distance.toNat % 32 = 0) ∧
      (xlen = .rv64 → validUtypeImm (constHighPart e.distance) = true)) ∧
    (∀ i hi e, i < j → b'.calls[i]? = some hi → hi.fix.records b'.seg hi.val = some e →
      e.address = l.value + lo.val → l.seg = b'.seg ∧ l.value = hi.fix.address)

/-! ## The words -/

section Words

variable {t : RelocCode} {old w v : Vma}

/-- Two words have the same low 32 bits. -/
def SameWord (x y : Vma) : Prop := ∀ i < 32, x.getLsbD i = y.getLsbD i

theorem SameWord.agreeOn {fs : List Field} {x y : Vma} (h : SameWord x y) (hfs : ∀ f ∈ fs, f.pos + f.width ≤ 32) :
    AgreeOn fs x y := fun f hf i hi => h _ (by have := hfs f hf; omega)

/-- What the low five bits of the immediate are when they are not written. -/
theorem getLsbD_clear_low (v : Vma) {i : Nat} (hi : i < 64) :
    (v &&& ~~~31#64).getLsbD i = (v.getLsbD i && decide (5 ≤ i)) := by
  have hmask : (31#64 : Vma) = (1#64 <<< 5) - 1#64 := by decide
  have hbit : (31#64).getLsbD i = decide (i < 5) := by
    rw [hmask, BitVec.getLsbD, toNat_mask (by decide), Nat.testBit_two_pow_sub_one]
  rw [BitVec.getLsbD_and, BitVec.getLsbD_not, hbit]
  by_cases h : i < 5
  · simp [h, hi, Nat.not_le.mpr h]
  · simp [h, hi, Nat.le_of_not_lt h]

/-- An I-type immediate written into a store: its low five bits are lost. -/
theorem stype_of_itype (hold : AgreeOn [⟨0, 5, 7⟩, ⟨5, 7, 25⟩] old 0) (hw : SameWord w (old ||| encodeItypeImm v)) :
    AgreeOn [⟨0, 5, 7⟩, ⟨5, 7, 25⟩] w (encodeStypeImm (v &&& ~~~31#64)) := by
  refine (hw.agreeOn (by decide)).trans ((agreeOn_or hold _).trans ?_)
  intro f hf i hi
  have hs := getLsbD_scatter_field (v &&& ~~~31#64) stype_format.fits stype_format.apart hf hi
  rw [encodeStypeImm, hs]
  simp only [List.mem_cons, List.not_mem_nil, or_false] at hf
  rcases hf with rfl | rfl
  · dsimp only at hi ⊢
    rw [encodeItypeImm, getLsbD_scatter_outside v itype_format.fits (by simp; omega), getLsbD_clear_low v (by omega)]
    simp only [Bool.false_eq, Bool.and_eq_false_imp, decide_eq_false_iff_not]
    omega
  · dsimp only at hi ⊢
    have hbit := getLsbD_scatter_field v itype_format.fits itype_format.apart (List.mem_singleton.mpr rfl)
      (show 5 + i < 12 by omega)
    dsimp only at hbit
    rw [show 25 + i = 20 + (5 + i) by omega, encodeItypeImm, hbit, getLsbD_clear_low v (by omega)]
    simp

/-- The immediate that a resolved low part has in its own format. -/
theorem lowImm_eq (htype : t.isPcrelLo = true) (hold : AgreeOn (lowFields t) old 0)
    (hw : SameWord w (old ||| encodeItypeImm v)) :
    lowImm t w = sext 12 (if t = .pcrelLo12S then v &&& ~~~31#64 else v) := by
  have hcases : t = .pcrelLo12I ∨ t = .pcrelLo12S := by
    cases t <;> first | exact absurd htype (by decide) | simp
  rcases hcases with rfl | rfl
  · rw [if_neg (by decide), ← extract_encodeItypeImm]
    exact itype_format.congr ((hw.agreeOn (by decide)).trans (agreeOn_or hold _))
  · rw [if_pos rfl, ← extract_encodeStypeImm]
    exact stype_format.congr (stype_of_itype hold hw)

theorem clear_low_eq (h : v.toNat % 32 = 0) : v &&& ~~~31#64 = v := by
  apply BitVec.eq_of_getLsbD_eq
  intro i hi
  rw [getLsbD_clear_low v hi]
  by_cases h5 : 5 ≤ i
  · simp [h5]
  · rw [(low_bits_zero_iff v 5).mpr h i (by omega), Bool.false_and]

theorem clear_low_mod (v : Vma) : (v &&& ~~~31#64).toNat % 32 = 0 := by
  refine (low_bits_zero_iff _ 5).mp fun i hi => ?_
  rw [getLsbD_clear_low v (by omega)]
  simp only [Bool.and_eq_false_imp, decide_eq_false_iff_not]
  omega

/-- No other bit changes, provided that a store has nothing in the low five bits. -/
theorem sameElsewhere_low (htype : t.isPcrelLo = true) (hw : SameWord w (old ||| encodeItypeImm v))
    (hstore : t = .pcrelLo12S → v.toNat % 32 = 0) : SameElsewhere (lowFields t) w old := by
  intro i hi hout
  rw [hw i hi, BitVec.getLsbD_or]
  have hclear : (encodeItypeImm v).getLsbD i = false := by
    have hcases : t = .pcrelLo12I ∨ t = .pcrelLo12S := by
      cases t <;> first | exact absurd htype (by decide) | simp
    by_cases hin : i < 20
    · exact getLsbD_scatter_outside v itype_format.fits (by simp; omega)
    · rcases hcases with rfl | rfl
      · exact getLsbD_scatter_outside v itype_format.fits hout
      · -- only the second register of the store is left
        have h25 : i < 25 := by
          have := hout ⟨5, 7, 25⟩ (by simp [lowFields])
          dsimp only at this
          omega
        have hbit := getLsbD_scatter_field v itype_format.fits itype_format.apart (List.mem_singleton.mpr rfl)
          (show i - 20 < 12 by omega)
        dsimp only at hbit
        rw [show i = 20 + (i - 20) by omega, encodeItypeImm, hbit]
        exact (low_bits_zero_iff v 5).mpr (hstore rfl) _ (by omega)
  rw [hclear, Bool.or_false]

/-- The immediate of a resolved high part. -/
theorem highImm_eq (hold : AgreeOn [⟨12, 20, 12⟩] old 0)
    (hw : SameWord w (old ||| encodeUtypeImm (constHighPart v))) : extractUtypeImm w = sext 32 (constHighPart v) := by
  rw [← extract_encodeUtypeImm (constHighPart_mod v)]
  exact utype_format.congr ((hw.agreeOn (by decide)).trans (agreeOn_or hold _))

theorem setWidth_sext (x : Vma) : (sext 32 x).setWidth 32 = x.setWidth 32 := by
  apply BitVec.eq_of_toNat_eq
  rw [BitVec.toNat_setWidth, BitVec.toNat_setWidth]
  exact toNat_sext_mod x (by decide) (by decide)

/-- What is left of the distance in a store has no low five bits, nor has the high part. -/
theorem pair_mod (v : Vma) : (sext 32 (constHighPart v) + sext 12 (v &&& ~~~31#64)).toNat % 32 = 0 := by
  have hhigh := toNat_sext_mod (constHighPart v) (n := 32) (by decide) (by decide)
  have hpart := constHighPart_mod v
  have hlow := toNat_sext_mod (v &&& ~~~31#64) (n := 12) (by decide) (by decide)
  have hclear := clear_low_mod v
  rw [BitVec.toNat_add]
  omega

/-- The two immediates add up to the distance exactly when nothing is lost of either. -/
theorem pair_exact_iff (xlen : Xlen) (v : Vma) (store : Prop) [Decidable store] :
    SameAddress xlen (sext 32 (constHighPart v) + sext 12 (if store then v &&& ~~~31#64 else v)) v ↔
      (store → v.toNat % 32 = 0) ∧ (xlen = .rv64 → validUtypeImm (constHighPart v) = true) := by
  have hvalid : validUtypeImm (constHighPart v) = true ↔ sext 32 (constHighPart v) = constHighPart v := by
    rw [validUtypeImm, decide_eq_true_iff, extract_encodeUtypeImm (constHighPart_mod v)]
  have hsum := constHighPart_add_sext v
  have hlow : SameAddress xlen (sext 32 (constHighPart v) + sext 12 (if store then v &&& ~~~31#64 else v)) v →
      store → v.toNat % 32 = 0 := by
    intro h hstore
    rw [if_pos hstore] at h
    have hmod := pair_mod v
    cases xlen with
    | rv64 => rwa [show _ = v from h] at hmod
    | rv32 =>
      have hnat := congrArg BitVec.toNat h
      rw [BitVec.toNat_setWidth, BitVec.toNat_setWidth] at hnat
      omega
  have hhigh (h : store → v.toNat % 32 = 0) :
      SameAddress xlen (sext 32 (constHighPart v) + sext 12 (if store then v &&& ~~~31#64 else v)) v ↔
        (xlen = .rv64 → validUtypeImm (constHighPart v) = true) := by
    have hu : (if store then v &&& ~~~31#64 else v) = v := by
      split
      · rename_i hstore
        exact clear_low_eq (h hstore)
      · rfl
    rw [hu, hvalid]
    cases xlen with
    | rv64 =>
      show _ = v ↔ _
      constructor
      · intro heq _
        exact (BitVec.add_left_inj _).mp (heq.trans hsum.symm)
      · intro heq
        rw [heq rfl, hsum]
    | rv32 =>
      refine ⟨fun _ hno => absurd hno (by decide), fun _ => ?_⟩
      show BitVec.setWidth 32 _ = BitVec.setWidth 32 v
      rw [BitVec.setWidth_add _ _ (by decide), setWidth_sext, ← BitVec.setWidth_add _ _ (by decide), hsum]
  constructor
  · intro h
    exact ⟨hlow h, (hhigh (hlow h)).mp h⟩
  · rintro ⟨hs, hv⟩
    exact (hhigh hs).mpr hv

end Words

/-! ## A round -/

section Round

variable {opts : FixOpts} {seg : Nat} {st : FixState} {c : FixCall}

/-- The fixup after a round is as the switch leaves it. -/
theorem fixupRound_fix (hnew : c.fix.done = false) :
    (fixupRound opts seg st c).2.1 = (applySwitch opts seg st { c.fix with addnumber := c.val } c.val).fix := by
  have hfix : (mdApplyFix opts seg st c.fix c.val).fix =
      (applySwitch opts seg st { c.fix with addnumber := c.val } c.val).fix := by
    unfold mdApplyFix
    dsimp only
    split <;> split <;> rfl
  unfold fixupRound
  rw [if_neg (by simp [hnew])]
  dsimp only
  split
  · exact hfix
  · split <;> exact hfix

/-- And so are the bytes. -/
theorem fixupRound_contents (hnew : c.fix.done = false) :
    (fixupRound opts seg st c).1.contents =
      (applySwitch opts seg st { c.fix with addnumber := c.val } c.val).st.contents := by
  have hst : (mdApplyFix opts seg st c.fix c.val).st.contents =
      (applySwitch opts seg st { c.fix with addnumber := c.val } c.val).st.contents := by
    unfold mdApplyFix
    dsimp only
    split <;> split <;> rfl
  unfold fixupRound
  rw [if_neg (by simp [hnew])]
  dsimp only
  split
  · exact hst
  · rename_i hnext
    split
    · exact hst
    · exact (mdApplyFix_next hnext _ _).1.trans hst

variable (seg st) in
/-- A high part is resolved exactly when it is recorded. -/
theorem round_high (hrelax : opts.relax = false) (hnew : c.fix.done = false) (htype : c.fix.rType = .pcrelHi20) :
    ((fixupRound opts seg st c).2.1.done = true ↔ ∃ e, c.fix.records seg c.val = some e) ∧
      ∀ e, c.fix.records seg c.val = some e → (fixupRound opts seg st c).1.contents =
        (st.orl 4 c.fix.address (encodeUtypeImm (constHighPart e.distance))).contents := by
  rw [fixupRound_fix hnew, fixupRound_contents hnew]
  unfold applySwitch
  simp only [htype]
  unfold applyPcrelHi20
  dsimp only
  cases hadd : c.fix.addsy with
  | none => simp [Fix.records, htype, hadd, hnew]
  | some s =>
    dsimp only
    have hrec : c.fix.records seg c.val =
        if s.isLocal ∧ s.seg = seg then some ⟨c.fix.address, s, s.value + c.val⟩ else none := by
      rw [Fix.records, htype, hadd]
    rw [hrec]
    split
    · refine ⟨by simp [hrelax], ?_⟩
      intro e he
      cases he
      rfl
    · simp [hnew]

/-- The high part that a low part finds, as long as it is one of this section. -/
def Found (seg : Nat) (his : List PcrelHiFixup) (address : Vma) (e : PcrelHiFixup) : Prop :=
  riscvFindPcrelFixup his address = some e ∧ e.symbol.isLocal = true ∧ e.symbol.seg = seg

/-- A low part is resolved exactly when it finds its high part. -/
theorem round_low (hrelax : opts.relax = false) (hnew : c.fix.done = false) (htype : c.fix.rType.isPcrelLo = true) :
    ((fixupRound opts seg st c).2.1.done = true ↔
        ∃ l e, c.fix.addsy = some l ∧ Found seg st.hiFixups (l.value + c.val) e) ∧
      ∀ l e, c.fix.addsy = some l → Found seg st.hiFixups (l.value + c.val) e → (fixupRound opts seg st c).1.contents =
        (st.orl 4 c.fix.address (encodeItypeImm e.distance)).contents := by
  have hswitch : applySwitch opts seg st { c.fix with addnumber := c.val } c.val =
      applyPcrelLo12 opts seg st { c.fix with addnumber := c.val } c.val := by
    unfold applySwitch
    split
    all_goals first
      | rfl
      | (rename_i heq; exact absurd htype (by rw [show c.fix.rType = _ from heq]; decide))
  rw [fixupRound_fix hnew, fixupRound_contents hnew, hswitch]
  unfold applyPcrelLo12 Found
  dsimp only
  cases hadd : c.fix.addsy with
  | none => simp [hnew]
  | some l =>
    dsimp only
    split
    · rename_i hfind
      refine ⟨by simp [hnew, hfind], ?_⟩
      intro l' e' hl' he'
      cases hl'
      exact absurd he'.1 (by simp [hfind])
    · rename_i e hfind
      split
      · rename_i hlocal
        refine ⟨iff_of_true (by simp [hrelax]) ⟨l, e, rfl, hfind, hlocal⟩, ?_⟩
        intro l' e' hl' he'
        cases hl'
        rw [hfind] at he'
        cases he'.1
        rfl
      · rename_i hlocal
        refine ⟨iff_of_false (by simp [hnew]) ?_, ?_⟩
        · rintro ⟨l', e', hl', he'⟩
          cases hl'
          rw [hfind] at he'
          cases he'.1
          exact hlocal he'.2
        · intro l' e' hl' he'
          cases hl'
          rw [hfind] at he'
          cases he'.1
          exact absurd he'.2 hlocal

end Round

/-! ## The records -/

section Records

variable {opts : FixOpts} {segs : List Segment} {b : Segment} {k : Nat}

/-- A record is made by a high part against a local symbol of the section. -/
theorem Fix.records_some {seg : Nat} {fix : Fix} {val : Vma} {e : PcrelHiFixup} (h : fix.records seg val = some e) :
    fix.rType = .pcrelHi20 ∧ e.address = fix.address ∧ fix.addsy = some e.symbol ∧ e.target = e.symbol.value + val ∧
      e.symbol.isLocal = true ∧ e.symbol.seg = seg := by
  unfold Fix.records at h
  split at h
  · rename_i htype hadd
    split at h
    · rename_i hlocal
      cases h
      exact ⟨htype, rfl, hadd, rfl, hlocal⟩
    · exact absurd h (by simp)
  · exact absurd h (by simp)

/-- The records of the sections before are against symbols of those sections. -/
theorem recordsAfter_seg (bs : List Segment) (his : List PcrelHiFixup)
    (hnew : ∀ b ∈ bs, ∀ c ∈ b.calls, c.fix.done = false) :
    ∀ e ∈ recordsAfter opts bs his, e ∈ his ∨ e.symbol.seg ∈ bs.map (·.seg) := by
  induction bs generalizing his with
  | nil => exact fun e he => .inl he
  | cons b bs ih =>
    intro e he
    rcases ih _ (fun b' hb' => hnew b' (List.mem_cons_of_mem _ hb')) e he with hrun | hseg
    · rw [Segment.run, fixupSegment_records (hnew b (List.mem_cons_self ..)), List.mem_append] at hrun
      rcases hrun with hown | hold
      · rw [List.mem_reverse, List.mem_filterMap] at hown
        obtain ⟨c, -, hrec⟩ := hown
        obtain ⟨-, -, -, -, -, hseg⟩ := Fix.records_some hrec
        exact .inr (by simp [hseg])
      · exact .inl hold
    · exact .inr (List.mem_cons_of_mem _ hseg)

theorem FixupsWf.mem (hb : segs[k]? = some b) : b ∈ segs := List.mem_of_getElem? hb

/-- No record of an earlier section is against a symbol of this one. -/
theorem FixupsWf.recordsBefore (hwf : FixupsWf segs) (hb : segs[k]? = some b) :
    ∀ e ∈ recordsAfter opts (segs.take k) [], e.symbol.seg ≠ b.seg := by
  intro e he heq
  obtain ⟨hk, rfl⟩ := List.getElem?_eq_some_iff.mp hb
  rcases recordsAfter_seg (segs.take k) [] (fun b hb => hwf.new b (List.mem_of_mem_take hb)) e he with h | h
  · exact absurd h List.not_mem_nil
  · rw [heq] at h
    obtain ⟨b', hb', hseg⟩ := List.mem_map.mp h
    obtain ⟨i, hi, rfl⟩ := List.mem_take_iff_getElem.mp hb'
    have hne : i = k := by
      refine (@List.Nodup.getElem_inj_iff _ _ hwf.distinct i (by simp; omega) k (by simp; omega)).mp ?_
      simpa using hseg
    omega

/-- Two sections with one number are one. -/
theorem FixupsWf.seg_inj (hwf : FixupsWf segs) {k' : Nat} {b' : Segment} (hb : segs[k]? = some b)
    (hb' : segs[k']? = some b')
    (h : b.seg = b'.seg) : k = k' := by
  obtain ⟨hk, rfl⟩ := List.getElem?_eq_some_iff.mp hb
  obtain ⟨hk', rfl⟩ := List.getElem?_eq_some_iff.mp hb'
  refine (@List.Nodup.getElem_inj_iff _ _ hwf.distinct k (by simpa) k' (by simpa)).mp ?_
  simpa using h

/-- Two high parts of a section at one address are one. -/
theorem FixupsWf.high_inj (hwf : FixupsWf segs) (hb : b ∈ segs) {i i' : Nat} {hi hi' : FixCall}
    (h : b.calls[i]? = some hi)
    (h' : b.calls[i']? = some hi') (ht : hi.fix.rType = .pcrelHi20) (ht' : hi'.fix.rType = .pcrelHi20)
    (haddr : hi.fix.address = hi'.fix.address) : i = i' := by
  obtain ⟨hlen, rfl⟩ := List.getElem?_eq_some_iff.mp h
  obtain ⟨hlen', rfl⟩ := List.getElem?_eq_some_iff.mp h'
  have hpair := List.pairwise_iff_getElem.mp (hwf.apart b hb)
  have hext (x : FixCall) (hx : x.fix.rType = .pcrelHi20) : x.fix.extent = 4 := by rw [Fix.extent, hx]
  have hnat : b.calls[i].fix.address.toNat = b.calls[i'].fix.address.toNat := by rw [haddr]
  rcases Nat.lt_trichotomy i i' with hlt | heq | hgt
  · have := hpair i i' hlen hlen' hlt
    rw [hext _ ht, hext _ ht'] at this
    omega
  · exact heq
  · have := hpair i' i hlen' hlen hgt
    rw [hext _ ht, hext _ ht'] at this
    omega

variable (opts) in
/-- What a low part of section `b` finds: the high part before it at the address it looks for. -/
theorem FixupsWf.found_iff (hwf : FixupsWf segs) (hb : segs[k]? = some b) (j : Nat) (address : Vma) (e : PcrelHiFixup) :
    Found b.seg (stateAt opts (segs.take k) b j).hiFixups address e ↔
      ∃ i hi, i < j ∧ b.calls[i]? = some hi ∧ hi.fix.records b.seg hi.val = some e ∧ e.address = address := by
  have hmem := FixupsWf.mem hb
  have hnew : ∀ c ∈ b.calls.take j, c.fix.done = false := fun c hc => hwf.new b hmem c (List.mem_of_mem_take hc)
  -- the records of this section so far
  have hown (e : PcrelHiFixup) : e ∈ ((b.calls.take j).filterMap fun c => c.fix.records b.seg c.val).reverse ↔
      ∃ i hi, i < j ∧ b.calls[i]? = some hi ∧ hi.fix.records b.seg hi.val = some e := by
    rw [List.mem_reverse, List.mem_filterMap]
    constructor
    · rintro ⟨c, hc, hrec⟩
      obtain ⟨i, hi, rfl⟩ := List.mem_take_iff_getElem.mp hc
      exact ⟨i, _, by omega, List.getElem?_eq_getElem (by omega), hrec⟩
    · rintro ⟨i, hi, hij, hcall, hrec⟩
      obtain ⟨hlen, rfl⟩ := List.getElem?_eq_some_iff.mp hcall
      exact ⟨_, List.mem_take_iff_getElem.mpr ⟨i, by omega, rfl⟩, hrec⟩
  rw [stateAt, fixupSegment_records hnew, Found, riscvFindPcrelFixup]
  dsimp only
  rw [List.find?_append]
  constructor
  · rintro ⟨hfind, hlocal, hseg⟩
    rcases Option.or_eq_some_iff.mp hfind with hfirst | ⟨-, hold⟩
    · obtain ⟨i, hi, hij, hcall, hrec⟩ := (hown e).mp (List.mem_of_find?_eq_some hfirst)
      exact ⟨i, hi, hij, hcall, hrec, by simpa using List.find?_some hfirst⟩
    · exact absurd hseg (hwf.recordsBefore hb e (List.mem_of_find?_eq_some hold))
  · rintro ⟨i, hi, hij, hcall, hrec, haddr⟩
    obtain ⟨htype, heq, -, -, hlocal, hseg⟩ := Fix.records_some hrec
    have hin := (hown e).mpr ⟨i, hi, hij, hcall, hrec⟩
    refine ⟨?_, hlocal, hseg⟩
    -- another record at this address is the same one
    obtain ⟨e', hfind⟩ : ∃ e', (((b.calls.take j).filterMap fun c => c.fix.records b.seg c.val).reverse).find?
        (fun x => decide (x.address = address)) = some e' :=
      Option.isSome_iff_exists.mp (List.find?_isSome.mpr ⟨e, hin, by simpa using haddr⟩)
    obtain ⟨i', hi', -, hcall', hrec'⟩ := (hown e').mp (List.mem_of_find?_eq_some hfind)
    have haddr' : e'.address = address := by simpa using List.find?_some hfind
    obtain ⟨htype', heq', -⟩ := Fix.records_some hrec'
    have hii := hwf.high_inj hmem hcall hcall' htype htype' (by rw [← heq, ← heq', haddr, haddr'])
    subst hii
    rw [hcall] at hcall'
    cases hcall'
    rw [hrec] at hrec'
    cases hrec'
    rw [hfind]
    rfl

end Records

/-! ## A whole run -/

section Run

variable {opts : FixOpts} {segs : List Segment} {b : Segment} {k j : Nat} {c : FixCall}

theorem doneAt_iff (hb : segs[k]? = some b) (hc : b.calls[j]? = some c) :
    DoneAt opts segs k j ↔ (fixupRound opts b.seg (stateAt opts (segs.take k) b j) c).2.1.done = true := by
  have hseg : (fixSegments opts segs [])[k]? = some (b.run opts (recordsAfter opts (segs.take k) [])) := by
    rw [fixSegments_getElem?, hb]
    rfl
  have hres := fixupSegment_getElem? opts b.seg hc
    { contents := b.contents, hiFixups := recordsAfter opts (segs.take k) [] }
  constructor
  · rintro ⟨r, f, n, hr, hf, hdone⟩
    rw [hseg] at hr
    cases hr
    rw [Segment.run, hres] at hf
    rw [stateAt, Option.some.inj hf]
    exact hdone
  · exact fun hdone => ⟨_, _, _, hseg, hres, hdone⟩

variable (opts) in
/-- Nothing happens to the word of a fixup before its round. -/
theorem FixupsWf.word_before (hwf : FixupsWf segs) (hb : segs[k]? = some b) (hc : b.calls[j]? = some c)
    (hext : c.fix.extent = 4) :
    getl 4 (stateAt opts (segs.take k) b j).contents c.fix.address.toNat = getl 4 b.contents c.fix.address.toNat ∧
      (stateAt opts (segs.take k) b j).contents.length = b.contents.length := by
  have hmem := FixupsWf.mem hb
  obtain ⟨hlen, rfl⟩ := List.getElem?_eq_some_iff.mp hc
  refine fixupSegment_getl (fun d hd => hwf.new b hmem d (List.mem_of_mem_take hd))
    (fun d hd => hwf.inside b hmem d (List.mem_of_mem_take hd)) fun d hd => ?_
  obtain ⟨i, hi, rfl⟩ := List.mem_take_iff_getElem.mp hd
  have := List.pairwise_iff_getElem.mp (hwf.apart b hmem) i j (by omega) hlen (by omega)
  rw [hext] at this
  omega

/-- Nor after it. -/
theorem FixupsWf.word_after (hwf : FixupsWf segs) (hb : segs[k]? = some b) (hc : b.calls[j]? = some c)
    (hext : c.fix.extent = 4) :
    finalWord opts segs k c.fix.address =
      getl 4 (fixupRound opts b.seg (stateAt opts (segs.take k) b j) c).1.contents c.fix.address.toNat := by
  have hmem := FixupsWf.mem hb
  have hbefore := hwf.word_before opts hb hc hext
  have hround := (fixupRound_frame opts b.seg (stateAt opts (segs.take k) b j)
    (hwf.new b hmem c (List.mem_of_getElem? hc))).bytes
    (by rw [hbefore.2]; exact hwf.inside b hmem c (List.mem_of_getElem? hc))
  have hstep := fixupSegment_take_succ opts b.seg hc
    { contents := b.contents, hiFixups := recordsAfter opts (segs.take k) [] }
  have hfinal : finalWord opts segs k c.fix.address = getl 4 (fixupSegment opts b.seg (b.calls.drop (j + 1))
      (fixupRound opts b.seg (stateAt opts (segs.take k) b j) c).1).1.contents c.fix.address.toNat := by
    rw [finalWord, fixSegments_getElem?, hb]
    dsimp only [Option.map_some]
    rw [Segment.run]
    conv_lhs => rw [← List.take_append_drop (j + 1) b.calls, fixupSegment_append]
    dsimp only
    rw [hstep]
    rfl
  rw [hfinal]
  obtain ⟨hlen, rfl⟩ := List.getElem?_eq_some_iff.mp hc
  refine (fixupSegment_getl (fun d hd => hwf.new b hmem d (List.mem_of_mem_drop hd)) (fun d hd => ?_) fun d hd => ?_).1
  · rw [hround.length, hbefore.2]
    exact hwf.inside b hmem d (List.mem_of_mem_drop hd)
  · obtain ⟨i, hi, rfl⟩ := List.mem_drop_iff_getElem.mp hd
    have := List.pairwise_iff_getElem.mp (hwf.apart b hmem) j (j + 1 + i) hlen (by omega) (by omega)
    rw [hext] at this
    omega

/-- The word of a fixup that is resolved. -/
theorem FixupsWf.word_resolved (hwf : FixupsWf segs) (hb : segs[k]? = some b) (hc : b.calls[j]? = some c)
    (hext : c.fix.extent = 4) {bits : Vma}
    (hround : (fixupRound opts b.seg (stateAt opts (segs.take k) b j) c).1.contents =
      ((stateAt opts (segs.take k) b j).orl 4 c.fix.address bits).contents) :
    SameWord (finalWord opts segs k c.fix.address) (getl 4 b.contents c.fix.address.toNat ||| bits) := by
  obtain ⟨hword, hlen⟩ := hwf.word_before opts hb hc hext
  have hin := hwf.inside b (FixupsWf.mem hb) c (List.mem_of_getElem? hc)
  intro i hi
  rw [hwf.word_after hb hc hext, hround, FixState.orl]
  dsimp only
  rw [getLsbD_getl_putl _ (by rw [hlen]; omega) (by omega) (by omega), hword]

end Run

/-! ## When resolution is exact -/

section Exact

variable {xlen : Xlen} {opts : FixOpts} {segs : List Segment} {b : Segment} {k i j : Nat} {hi lo : FixCall}
  {e : PcrelHiFixup} {l : Symbol}

/-- The high part that a low part finds. -/
structure FoundAt (b : Segment) (lo : FixCall) (j i : Nat) (hi : FixCall) (l : Symbol) (e : PcrelHiFixup) : Prop where
  label : lo.fix.addsy = some l
  first : i < j
  call : b.calls[i]? = some hi
  record : hi.fix.records b.seg hi.val = some e
  address : e.address = l.value + lo.val

theorem LowAt.extent (h : LowAt segs k j b lo) : lo.fix.extent = 4 := by
  have htype := h.type
  unfold Fix.extent
  cases ht : lo.fix.rType <;> rw [ht] at htype <;> first | rfl | exact absurd htype (by decide)

theorem FixupsWf.high_done_iff (hwf : FixupsWf segs) (hrelax : opts.relax = false) (hb : segs[k]? = some b)
    (hc : b.calls[i]? = some hi) (htype : hi.fix.rType = .pcrelHi20) :
    DoneAt opts segs k i ↔ ∃ e, hi.fix.records b.seg hi.val = some e := by
  have hnew := hwf.new b (FixupsWf.mem hb) hi (List.mem_of_getElem? hc)
  rw [doneAt_iff hb hc]
  exact (round_high b.seg _ hrelax hnew htype).1

theorem FixupsWf.low_done_iff (hwf : FixupsWf segs) (hrelax : opts.relax = false) (h : LowAt segs k j b lo) :
    DoneAt opts segs k j ↔ ∃ i hi l e, FoundAt b lo j i hi l e := by
  have hnew := hwf.new b (FixupsWf.mem h.seg) lo (List.mem_of_getElem? h.call)
  rw [doneAt_iff h.seg h.call, (round_low hrelax hnew h.type).1]
  constructor
  · rintro ⟨l, e, hl, hfound⟩
    obtain ⟨i, hi, hij, hcall, hrec, haddr⟩ := (hwf.found_iff opts h.seg j _ e).mp hfound
    exact ⟨i, hi, l, e, hl, hij, hcall, hrec, haddr⟩
  · rintro ⟨i, hi, l, e, hf⟩
    exact ⟨l, e, hf.label, (hwf.found_iff opts h.seg j _ e).mpr ⟨i, hi, hf.first, hf.call, hf.record, hf.address⟩⟩

/-- Only one record can be found. -/
theorem FixupsWf.usedHi_eq (hwf : FixupsWf segs) (hb : segs[k]? = some b) (hf : FoundAt b lo j i hi l e) :
    usedHi opts (segs.take k) b j l lo.val = some e :=
  ((hwf.found_iff opts hb j _ e).mpr ⟨i, hi, hf.first, hf.call, hf.record, hf.address⟩).1

/-- The words of a pair that is resolved. -/
theorem FixupsWf.pair (hwf : FixupsWf segs) (hrelax : opts.relax = false) (h : LowAt segs k j b lo)
    (hf : FoundAt b lo j i hi l e) :
    extractUtypeImm (finalWord opts segs k hi.fix.address) + lowImm lo.fix.rType
      (finalWord opts segs k lo.fix.address) =
        sext 32 (constHighPart e.distance) +
          sext 12 (if lo.fix.rType = .pcrelLo12S then e.distance &&& ~~~31#64 else e.distance) ∧
      ((lo.fix.rType = .pcrelLo12S → e.distance.toNat % 32 = 0) →
        SameElsewhere (lowFields lo.fix.rType) (finalWord opts segs k lo.fix.address)
          (getl 4 b.contents lo.fix.address.toNat)) := by
  have hmem := FixupsWf.mem h.seg
  have hhimem := List.mem_of_getElem? hf.call
  have hlomem := List.mem_of_getElem? h.call
  obtain ⟨htype, -⟩ := Fix.records_some hf.record
  have hround := (round_high b.seg (stateAt opts (segs.take k) b i) hrelax (hwf.new b hmem hi hhimem) htype).2 e
    hf.record
  have hhigh := hwf.word_resolved h.seg hf.call (by rw [Fix.extent, htype]) hround
  have hfound := (hwf.found_iff opts h.seg j _ e).mpr ⟨i, hi, hf.first, hf.call, hf.record, hf.address⟩
  have hlow := hwf.word_resolved h.seg h.call h.extent
    ((round_low hrelax (hwf.new b hmem lo hlomem) h.type).2 l e hf.label hfound)
  refine ⟨?_, fun hstore => sameElsewhere_low h.type hlow hstore⟩
  rw [highImm_eq (hwf.high b hmem hi hhimem htype) hhigh, lowImm_eq h.type (hwf.low b hmem lo hlomem h.type) hlow]

/-- What the condition says of a low part that is resolved is enough. -/
theorem PcrelPlain.exact (hwf : FixupsWf segs) (hrelax : opts.relax = false) (hplain : PcrelPlain xlen segs) :
    PcrelExact xlen opts segs := by
  constructor
  · intro k j b lo h hdone
    obtain ⟨i, hi, l, e, hf⟩ := (hwf.low_done_iff hrelax h).mp hdone
    obtain ⟨htype, haddr, hsym, htarget, -⟩ := Fix.records_some hf.record
    obtain ⟨hseg, hvalue⟩ := (hplain k j b lo l h hf.label).2 i hi e hf.first hf.call hf.record hf.address
    have hdes : Designates segs lo k i b hi := ⟨h.seg, hf.call, htype, l, hf.label, hseg, hvalue⟩
    obtain ⟨-, -, hval, hstore, hreach⟩ := (hplain k j b lo l h hf.label).1 k i b hi e hdes hf.record
    obtain ⟨hsum, helse⟩ := hwf.pair hrelax h hf
    refine ⟨i, hi, hdes, (hwf.high_done_iff hrelax h.seg hf.call htype).mpr ⟨e, hf.record⟩,
      ⟨l, e, hf.label, hwf.usedHi_eq h.seg hf, haddr⟩, ⟨e.symbol, hsym, ?_⟩, helse hstore⟩
    have hdist : e.symbol.value + hi.val + lo.val - hi.fix.address = e.distance := by
      simp [hval, PcrelHiFixup.distance, htarget, haddr]
    rw [hsum, hdist, pair_exact_iff]
    exact ⟨hstore, hreach⟩
  · intro k i b hi k' j b' lo h hdes hdone
    obtain ⟨e, hrec⟩ := (hwf.high_done_iff hrelax hdes.seg hdes.call hdes.type).mp hdone
    obtain ⟨l, hl, -, hvalue⟩ := hdes.label
    obtain ⟨rfl, hij, hval, -⟩ := (hplain k' j b' lo l h hl).1 k i b hi e hdes hrec
    have hbb : b = b' := Option.some.inj (hdes.seg.symm.trans h.seg)
    subst hbb
    refine (hwf.low_done_iff hrelax h).mpr ⟨i, hi, l, e, hl, hij, hdes.call, hrec, ?_⟩
    simp [(Fix.records_some hrec).2.1, ← hvalue, hval]

/-- And it is needed. -/
theorem PcrelExact.plain (hwf : FixupsWf segs) (hrelax : opts.relax = false) (hexact : PcrelExact xlen opts segs) :
    PcrelPlain xlen segs := by
  intro k' j b' lo l h hl
  have hmem := FixupsWf.mem h.seg
  -- what exactness says of a low part that is resolved with the record of call `i`
  have hresolved {i : Nat} {hi : FixCall} {e : PcrelHiFixup} (hf : FoundAt b' lo j i hi l e) :
      l.seg = b'.seg ∧ l.value = hi.fix.address ∧ lo.val = 0 ∧
        (lo.fix.rType = .pcrelLo12S → e.distance.toNat % 32 = 0) ∧
        (xlen = .rv64 → validUtypeImm (constHighPart e.distance) = true) := by
    obtain ⟨i', hi', hdes, -, ⟨l', e', hl', hused, haddr'⟩, ⟨s, hs, hsum⟩, -⟩ :=
      hexact.exact k' j b' lo h ((hwf.low_done_iff hrelax h).mpr ⟨i, hi, l, e, hf⟩)
    obtain ⟨htype, haddr, hsym, htarget, -⟩ := Fix.records_some hf.record
    obtain ⟨l'', hl'', hseg, hvalue⟩ := hdes.label
    rw [hl] at hl' hl''
    cases hl'
    cases hl''
    rw [hwf.usedHi_eq h.seg hf] at hused
    cases hused
    have hii := hwf.high_inj hmem hf.call hdes.call htype hdes.type (by rw [← haddr, haddr'])
    subst hii
    have hhi : hi = hi' := Option.some.inj (hf.call.symm.trans hdes.call)
    subst hhi
    have hval : lo.val = 0 := by
      have hkey := hf.address
      rw [haddr, hvalue] at hkey
      simpa using hkey
    rw [hsym] at hs
    cases hs
    have hdist : e.symbol.value + hi.val + lo.val - hi.fix.address = e.distance := by
      simp [hval, PcrelHiFixup.distance, htarget, haddr]
    rw [(hwf.pair hrelax h hf).1, hdist, pair_exact_iff] at hsum
    exact ⟨hseg, hvalue, hval, hsum⟩
  constructor
  · intro k i b hi e hdes hrec
    have hdone := hexact.dropped k i b hi k' j b' lo h hdes
      ((hwf.high_done_iff hrelax hdes.seg hdes.call hdes.type).mpr ⟨e, hrec⟩)
    obtain ⟨i', hi', l', e', hf⟩ := (hwf.low_done_iff hrelax h).mp hdone
    obtain ⟨l'', hl'', hseg'', hvalue''⟩ := hdes.label
    have hll : l' = l := Option.some.inj (hf.label.symm.trans hl)
    subst hll
    rw [hl] at hl''
    cases hl''
    obtain ⟨hseg, hvalue, hval, hstore, hreach⟩ := hresolved hf
    obtain rfl : k = k' := hwf.seg_inj hdes.seg h.seg (hseg''.symm.trans hseg)
    have hbb : b = b' := Option.some.inj (hdes.seg.symm.trans h.seg)
    subst hbb
    obtain ⟨htype', -⟩ := Fix.records_some hf.record
    have hii := hwf.high_inj hmem hdes.call hf.call hdes.type htype' (by rw [← hvalue'', hvalue])
    subst hii
    have hhi : hi = hi' := Option.some.inj (hdes.call.symm.trans hf.call)
    subst hhi
    have hee : e = e' := Option.some.inj (hrec.symm.trans hf.record)
    subst hee
    exact ⟨rfl, hf.first, hval, hstore, hreach⟩
  · intro i hi e hij hcall hrec haddr
    have hr := hresolved ⟨hl, hij, hcall, hrec, haddr⟩
    exact ⟨hr.1, hr.2.1⟩

/-- Resolution is exact precisely when the low parts are plain. -/
theorem pcrelExact_iff_plain (hwf : FixupsWf segs) (hrelax : opts.relax = false) :
    PcrelExact xlen opts segs ↔ PcrelPlain xlen segs :=
  ⟨PcrelExact.plain hwf hrelax, PcrelPlain.exact hwf hrelax⟩

end Exact

/-- `1: auipc a0, %pcrel_hi (x)`, an instruction with `%pcrel_lo (1b)`, and `x`. -/
def pcrelSegment (type : RelocCode) (insn : List Byte) : Segment where
  seg := 1
  contents := [0x17, 0x05, 0, 0] ++ insn ++ [0, 0, 0, 0]
  calls :=
    [{ fix := { address := 0, rType := .pcrelHi20, addsy := some { value := 8, seg := 1 } } },
      { fix := { address := 4, rType := type, addsy := some { value := 0, seg := 1 } } }]

/-- `lw a1, 0 (a0)`: the pair is resolved exactly. -/
theorem pcrelExact_load :
    FixupsWf [pcrelSegment .pcrelLo12I [0x83, 0x25, 0x05, 0]] ∧
      PcrelExact .rv64 { relax := false } [pcrelSegment .pcrelLo12I [0x83, 0x25, 0x05, 0]] := by
  have hwf : FixupsWf [pcrelSegment .pcrelLo12I [0x83, 0x25, 0x05, 0]] :=
    ⟨by decide, by decide, by decide, by decide, by decide, by decide⟩
  refine ⟨hwf, (pcrelExact_iff_plain hwf rfl).mpr ?_⟩
  rintro (_ | _) (_ | _ | _) b' lo l ⟨hb, hlo, htype⟩ hl <;> cases hb <;> cases hlo
  · exact absurd htype (by decide)
  · cases hl
    constructor
    · rintro (_ | _) (_ | _ | _) b hi e ⟨hb, hhi, hhtype, hlabel⟩ hrec <;> cases hb <;> cases hhi
      · cases hrec
        exact ⟨rfl, by decide, rfl, by decide, fun _ => by decide⟩
      · exact absurd hhtype (by decide)
    · rintro (_ | _) hi e hij hhi hrec haddr
      · cases hhi
        exact ⟨rfl, rfl⟩
      · omega

/-- `sw a1, %pcrel_lo (1b) (a0)` for a label `.Lx`: the low part is put where the second register is. -/
theorem pcrelExact_store_lost :
    ¬∀ (xlen : Xlen) (opts : FixOpts) (segs : List Segment), FixupsWf segs → opts.relax = false →
      PcrelExact xlen opts segs := by
  intro hall
  have hwf : FixupsWf [pcrelSegment .pcrelLo12S [0x23, 0x20, 0xb5, 0]] :=
    ⟨by decide, by decide, by decide, by decide, by decide, by decide⟩
  have hplain := (hall .rv64 { relax := false } _ hwf rfl).plain hwf rfl
  have hstore := ((hplain 0 1 _ _ _ ⟨rfl, rfl, rfl⟩ rfl).1 0 0 _ _ _ ⟨rfl, rfl, rfl, _, rfl, rfl, rfl⟩ rfl).2.2.2.1 rfl
  exact absurd hstore (by decide)

end RiscvBinutils.Gas
