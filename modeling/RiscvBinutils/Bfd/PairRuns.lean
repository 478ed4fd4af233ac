/-
What a relocated pair of a high part and a low part does when it is executed: the first instruction puts an address in
its register up to the immediate of the second one, which stands as it was but for that immediate.
-/
import RiscvBinutils.Bfd.Exact
import RiscvBinutils.Bfd.PcrelPair
import RiscvBinutils.Machine.Decode

namespace RiscvBinutils.Bfd

open RiscvBinutils.Base RiscvBinutils.Opcode RiscvBinutils.Machine

/-! ## The register of the first instruction -/

/-- The destination register of the instruction at `off` is the same in both buffers. -/
def RdKept (off : Nat) (c c' : List Byte) : Prop := Machine.rdOf (getl 4 c' off) = Machine.rdOf (getl 4 c off)

theorem rdOf_congr {x y : Vma} (h : ∀ i, 7 ≤ i → i < 12 → y.getLsbD i = x.getLsbD i) :
    Machine.rdOf y = Machine.rdOf x := by
  apply BitVec.eq_of_getLsbD_eq
  intro i hi
  rw [Machine.rdOf, Machine.rdOf, BitVec.getLsbD_extractLsb', BitVec.getLsbD_extractLsb',
    h (7 + i) (by omega) (by omega)]

theorem rdOf_zeroPcrelHi (old : Vma) : Machine.rdOf ((old &&& ~~~maskAuipc) ||| matchLui) = Machine.rdOf old := by
  have hlui : ∀ i < 12, 7 ≤ i → matchLui.getLsbD i = false := by decide
  refine rdOf_congr fun i h7 h12 => ?_
  rw [BitVec.getLsbD_or, BitVec.getLsbD_and, BitVec.getLsbD_not, maskAuipc_bits i (by omega), hlui i h12 h7]
  simp [show i < 64 by omega, show ¬ i < 7 by omega]

section Rd

variable {link : Link} {inp : Input} {st st₁ st' : RelocState} {s : RelocSym} {target : Vma}

theorem rdKept_putl {c : List Byte} {off : Nat} {v : Vma} (hin : off ≤ c.length)
    (h : Machine.rdOf v = Machine.rdOf (getl 4 c off)) : RdKept off c (putl 4 v c off) := by
  rw [RdKept, ← h]
  exact rdOf_congr fun i _ hi => getLsbD_getl_putl v hin (by omega) (by omega)

/-- An upper immediate leaves the register alone. -/
theorem doRelocation_rdKept {rel : Rela} (hu : rel.type.isUtype) (hin : rel.offset.toNat ≤ st.contents.length)
    (h : doRelocation link inp st rel target = .ok st') : RdKept rel.offset.toNat st.contents st'.contents := by
  obtain ⟨hok, rfl⟩ := doRelocation_ok h
  obtain ⟨-, heq⟩ := performRelocation_utype hu hok
  obtain ⟨hw, hmask, -⟩ := isUtype_howto hu
  have hbits : ∀ i < 12, (encodeUtypeImm allOnes32).getLsbD i = false := by decide
  dsimp only
  rw [heq, emplace_eq_putl hw, hmask]
  refine rdKept_putl hin (rdOf_congr fun i _ hi => ?_)
  rw [BitVec.getLsbD_or, BitVec.getLsbD_and, BitVec.getLsbD_and, BitVec.getLsbD_not, hbits i hi]
  simp [show i < 64 by omega]

/-- A high part that is recorded and then placed. -/
theorem recorded_rdKept {value : Vma} {type : RelocType} {absolute : Bool} (htype : s.rel.type.isPcrelHi)
    (hin : s.rel.offset.toNat ≤ st.contents.length) (hc : st₁.contents = st.contents)
    (h : doRelocation link inp
      (riscvRecordPcrelHiReloc st₁ (link.secAddr inp.sec + s.rel.offset) value type absolute) s.rel target =
      .ok st') : RdKept s.rel.offset.toNat st.contents st'.contents := by
  have hu : s.rel.type.isUtype := by rw [RelocType.isUtype, htype]; rfl
  have hkept := doRelocation_rdKept hu (by rw [riscvRecordPcrelHiReloc, hc]; exact hin) h
  rwa [riscvRecordPcrelHiReloc, hc] at hkept

theorem placePcrelHi_rdKept {unresolved : Bool} {value : Vma} (htype : s.rel.type.isPcrelHi)
    (hin : s.rel.offset.toNat + 4 ≤ st.contents.length) (hc : st₁.contents = st.contents)
    (h : placePcrelHi link inp st₁ s unresolved target value = .ok st') :
    RdKept s.rel.offset.toNat st.contents st'.contents := by
  unfold placePcrelHi at h
  dsimp only at h
  rcases riscvZeroPcrelHiReloc_cases link s.rel (link.secAddr inp.sec + s.rel.offset) target st₁.contents with
    hz | ⟨-, hz⟩
  · rw [hz] at h
    exact recorded_rdKept htype (by omega) hc (placeRelocation_ok h)
  · rw [hz] at h
    have hdo := placeRelocation_ok h
    have hlen := (sameOutside_putl ((getl 4 st.contents s.rel.offset.toNat &&& ~~~maskAuipc) ||| matchLui) hin).length
    rw [riscvRecordPcrelHiReloc, hc] at hdo
    -- the opcode is changed first, then the immediate
    have himm := doRelocation_rdKept rfl (by dsimp only; rw [hlen]; omega) hdo
    exact himm.trans (rdKept_putl (by omega) (rdOf_zeroPcrelHi _))

theorem relocatePlain_rdKept (htype : s.rel.type.isPcrelHi) (hin : s.rel.offset.toNat + 4 ≤ st.contents.length)
    (h : relocatePlain link inp st s = .ok st') : RdKept s.rel.offset.toNat st.contents st'.contents := by
  have htypes : s.rel.type = .pcrelHi20 ∨ s.rel.type = .gotHi20 ∨ s.rel.type = .tlsGotHi20 ∨
      s.rel.type = .tlsGdHi20 := by
    revert htype
    cases s.rel.type <;> decide
  rcases htypes with ht | ht | ht | ht
  · rw [relocatePlain, ht] at h
    exact placePcrelHi_rdKept htype hin rfl h
  · rw [relocatePlain, ht] at h
    dsimp only at h
    split at h
    · exact absurd h (by simp)
    · rename_i sgot _
      split at h
      · exact absurd h (by simp)
      · exact placePcrelHi_rdKept htype hin (fillGot_frame link st s sgot).1 h
  all_goals
    rw [relocatePlain, ht] at h
    dsimp only at h
    split at h
    · exact absurd h (by simp)
    · rename_i sgot _
      exact recorded_rdKept htype (by omega) (fillTlsGot_frame link inp st s sgot).1 (placeRelocation_ok h)

theorem relocateIfunc_rdKept {p : Nat} {e : HashEntry} (htype : s.rel.type.isPcrelHi)
    (hin : s.rel.offset.toNat + 4 ≤ st.contents.length) (h : relocateIfunc link inp st s p e = .ok st') :
    RdKept s.rel.offset.toNat st.contents st'.contents := by
  unfold relocateIfunc at h
  dsimp only at h
  split at h
  case h_3 =>
    split at h
    · exact absurd h (by simp)
    · rename_i st₁ slot hgot
      exact recorded_rdKept htype (by omega) (ifuncGot_frame hgot).1 h
  case h_9 =>
    split at h
    · exact absurd h (by simp)
    · exact recorded_rdKept htype (by omega) rfl h
  any_goals
    rename_i ht
    rw [ht] at htype
    exact absurd htype (by decide)
  exact absurd h (by simp)

/-- The round of a high part: nothing is recorded, or the register stays. -/
theorem relocateOne_rdKept {hi : Rela} (htype : hi.type.isPcrelHi) (hin : hi.offset.toNat + 4 ≤ st.contents.length)
    (h : relocateOne link inp st hi = .ok st') :
    st'.hiRelocs = st.hiRelocs ∨ RdKept hi.offset.toNat st.contents st'.contents := by
  unfold relocateOne at h
  split at h
  · exact absurd h (by simp)
  rename_i s hs
  have hrel := relocSymbol_rel hs
  have htype' : s.rel.type.isPcrelHi := by rw [hrel]; exact htype
  have hoff : s.rel.offset = hi.offset := by rw [hrel]
  have hin' : s.rel.offset.toNat + 4 ≤ st.contents.length := by rw [hoff]; exact hin
  have hplain (h : relocatePlain link inp st s = .ok st') : RdKept hi.offset.toNat st.contents st'.contents :=
    hoff ▸ relocatePlain_rdKept htype' hin' h
  split at h
  · cases h
    exact .inl rfl
  · split at h
    · cases h
      exact .inl rfl
    · split at h
      · exact .inr (hplain h)
      · dsimp only at h
        split at h
        · exact .inr (hoff ▸ relocateIfunc_rdKept htype' hin' h)
        · split at h
          · exact .inr (hplain h)
          · split at h
            · cases h
              exact .inl rfl
            · exact absurd h (by simp)

end Rd

/-! ## The second instruction -/

section Low

variable {link : Link} {inp : Input} {st st' : RelocState}

/-- The round of a low part leaves the bytes alone. -/
theorem relocateOne_lo_contents {lo : Rela} {s : RelocSym} (hfinal : link.type ≠ .relocatable)
    (htype : lo.type.isPcrelLo) (hs : relocSymbol link inp lo = .ok s) (hlabel : PlainLabel link s)
    (h : relocateOne link inp st lo = .ok st') : st'.contents = st.contents := by
  have htype' : s.rel.type = .pcrelLo12I ∨ s.rel.type = .pcrelLo12S := by
    rw [relocSymbol_rel hs]
    exact isPcrelLo_cases htype
  unfold relocateOne at h
  simp only [hs, hlabel.kept, hlabel.noIfunc, hfinal, Bool.false_eq_true, if_false] at h
  rcases htype' with ht | ht
  all_goals
    rw [relocatePlain, ht] at h
    dsimp only at h
    split at h
    · exact absurd h (by simp)
    · cases h
      rfl

/-- A low part is placed in the bits of its own format. -/
theorem performRelocation_lo_outside (tgt : Target) {rel : Rela} (value secAddr : Vma) {c : List Byte}
    (htype : rel.type.isPcrelLo) (hoff : rel.offset.toNat ≤ c.length) {i : Nat} (hi : i < 32)
    (hout : (howto rel.type).dstMask.getLsbD i = false) :
    (getl 4 (performRelocation tgt rel value secAddr c).2 rel.offset.toNat).getLsbD i =
      (getl 4 c rel.offset.toNat).getLsbD i := by
  have hfield : ∃ field,
      (performRelocation tgt rel value secAddr c).2 = emplace tgt rel.type field c rel.offset.toNat := by
    rcases isPcrelLo_cases htype with h | h
    all_goals exact ⟨_, by rw [h]; simp [performRelocation, h, howto, relocField]; rfl⟩
  have hw : rel.type.isWord := by
    revert htype
    cases rel.type <;> decide
  obtain ⟨field, heq⟩ := hfield
  rw [heq, emplace_eq_putl hw, getLsbD_getl_putl _ hoff (by omega) (by omega), BitVec.getLsbD_or, BitVec.getLsbD_and,
    BitVec.getLsbD_and, BitVec.getLsbD_not, hout]
  simp [show i < 64 by omega]

end Low

namespace PcrelPair

variable {link : Link} {inp : Input} {relocs : List Rela} {st : RelocState} {i j : Nat} {hi lo : Rela}
  {label : RelocSym}

/-- The instruction of a low part stays in the loop. -/
theorem low_loop (h : PcrelPair link inp relocs st i j hi lo label) (hfinal : link.type ≠ .relocatable)
    {sf : RelocState} (hloop : relocateLoop link inp relocs st = .ok sf) :
    getl 4 sf.contents lo.offset.toNat = getl 4 st.contents lo.offset.toNat := by
  have hj : j < relocs.length := (List.getElem?_eq_some_iff.mp h.atLo).1
  obtain ⟨t₀, t₁, ht₀, hone, ht₁⟩ := relocateLoop_round h.atLo hloop
  rw [← List.take_length (l := relocs)] at hloop
  have hbefore := Inside.word_eq h.inside h.loAlone (Nat.zero_le j) hj.le (fun k _ hk => hk.ne) rfl ht₀
  have hafter := Inside.word_eq h.inside h.loAlone hj le_rfl (fun k hk _ => (Nat.lt_of_succ_le hk).ne') ht₁ hloop
  rw [hafter, relocateOne_lo_contents hfinal h.loType h.symbol h.plain hone, hbefore]

/-- The low instruction at the end: outside its immediate it stands as at the start. -/
theorem low_outside (h : PcrelPair link inp relocs st i j hi lo label) (hfinal : link.type ≠ .relocatable)
    (hlo : st.loRelocs = []) {sf : RelocState} {c : List Byte} (hloop : relocateLoop link inp relocs st = .ok sf)
    (hres : riscvResolvePcrelLoRelocs link.target (link.secAddr inp.sec) sf.hiRelocs sf.loRelocs sf.contents = .ok c)
    {k : Nat} (hk : k < 32) (hout : (howto lo.type).dstMask.getLsbD k = false) :
    (getl 4 c lo.offset.toNat).getLsbD k = (getl 4 st.contents lo.offset.toNat).getLsbD k := by
  have hlen : sf.contents.length = st.contents.length := by
    apply Inside.length_eq h.inside le_rfl
    rwa [List.take_length]
  have hrel := relocSymbol_rel h.symbol
  have hoff : label.rel.offset = lo.offset := by rw [hrel]
  have htype : label.rel.type = lo.type := by rw [hrel]
  obtain ⟨rs, rs', hsplit, hround, hfrom⟩ := h.loRelocs_split hfinal hlo hloop
  have hself : LoApart st.contents.length hi.offset.toNat ⟨label.relocation, label.rel⟩ :=
    Inside.loApart h.inside hround fun rel s hk hs => h.hiAlone j rel s hk hs (h.fromRound_ne hround)
  have hapart : ∀ r ∈ rs ++ rs', LoApart st.contents.length lo.offset.toNat r := by
    intro r hr
    obtain ⟨k, hk, hr'⟩ := hfrom r hr
    exact Inside.loApart h.inside hr' fun rel s hrel hs => h.loAlone k rel s hrel hs hk
  rw [hsplit, riscvResolvePcrelLoRelocs_append] at hres
  split at hres
  · exact absurd hres (by simp)
  rename_i c₁ hc₁
  rw [riscvResolvePcrelLoRelocs] at hres
  split at hres
  · exact absurd hres (by simp)
  rename_i c₂ hc₂
  obtain ⟨entry, -, -, rfl⟩ := resolvePcrelLoReloc_ok hc₂
  -- the low parts before it, itself, and those behind it
  obtain ⟨hfirst, hlen₁⟩ := riscvResolvePcrelLoRelocs_frame rs
    (fun r hr => hlen.symm ▸ hapart r (List.mem_append_left _ hr)) hc₁
  have hin : label.rel.offset.toNat + 4 ≤ c₁.length := by
    rw [hlen₁, hlen]
    exact hself.inside
  have hframe := performRelocation_lo_sameOutside link.target entry.value (link.secAddr inp.sec) hself.lo hin
  have hlast := (riscvResolvePcrelLoRelocs_frame rs'
    (fun r hr => (hframe.length.trans (hlen₁.trans hlen)).symm ▸ hapart r (List.mem_append_right _ hr)) hres).1
  have hbit := performRelocation_lo_outside link.target entry.value (link.secAddr inp.sec) hself.lo
    (Nat.le_of_add_right_le hin) hk (by rw [htype]; exact hout)
  rw [hoff] at hbit
  rw [hlast, hbit, hfirst, h.low_loop hfinal hloop]

/-- The high instruction at the end has the register it had at the start, if it was recorded. -/
theorem high_rd (h : PcrelPair link inp relocs st i j hi lo label) (hhi : st.hiRelocs = []) {sf : RelocState}
    (hloop : relocateLoop link inp relocs st = .ok sf) {entry : PcrelHiReloc}
    (hfind : riscvFindPcrelHiReloc sf.hiRelocs (link.secAddr inp.sec + hi.offset) = some entry) :
    RdKept hi.offset.toNat st.contents sf.contents := by
  have hi' : i < relocs.length := (List.getElem?_eq_some_iff.mp h.atHi).1
  obtain ⟨s₀, s₁, hs₀, hone, hs₁⟩ := relocateLoop_round h.atHi hloop
  rw [← List.take_length (l := relocs)] at hloop
  have hbefore := Inside.word_eq h.inside h.hiAlone (Nat.zero_le i) hi'.le (fun k _ hk => hk.ne) rfl hs₀
  have hafter := Inside.word_eq h.inside h.hiAlone hi' le_rfl (fun k hk _ => (Nat.lt_of_succ_le hk).ne') hs₁ hloop
  have hnone := h.hiRecord_eq (Nat.zero_le i) hi'.le (fun k _ hk => hk.ne) rfl hs₀
  have hkept := h.hiRecord_eq hi' le_rfl (fun k hk _ => (Nat.lt_of_succ_le hk).ne') hs₁ hloop
  have hin := h.inside i hi s₀ h.atHi hs₀
  rw [isPcrelHi_extent hi.type h.hiType] at hin
  rcases relocateOne_rdKept h.hiType hin hone with hsame | hrd
  · -- without a record there is nothing to find
    rw [hkept, hsame, hnone, hhi] at hfind
    exact absurd hfind (by simp [riscvFindPcrelHiReloc])
  · rw [RdKept, hafter, ← hbefore]
    exact hrd

end PcrelPair

/-! ## What the first instruction leaves for the second -/

theorem lowImm_pcrelLo {type : RelocType} (h : type.isPcrelLo) (word : Vma) :
    lowImm type word = if type = .pcrelLo12S then extractStypeImm word else extractItypeImm word := by
  cases type <;> first | rfl | exact absurd h (by decide)

/-- The instruction `word` at `pc` puts a value into `temp` that is `address` with `low` added, and does nothing
else. -/
def HighRuns (xlen : Xlen) (pc : Vma) (temp : Reg) (word low address : Vma) : Prop :=
  ∃ i x, decodeAt xlen.bits word = some (i, 4) ∧ x + low.setWidth xlen.bits = address.setWidth xlen.bits ∧
    ∀ (mem : BitVec xlen.bits → BitVec xlen.bits) (s : State xlen.bits), s.pc = pc.setWidth xlen.bits →
      exec mem 4 s i = (s.set temp x).goto (s.pc + 4)

section Decode

variable {w : Nat} {word : Vma}

theorem low_bits_of_opcode {op : Vma} (h : word &&& maskAuipc = op) {s n : Nat} (hle : s + n ≤ 7) :
    word.extractLsb' s n = op.extractLsb' s n := by
  refine extractLsb_congr (fun i hi => ?_) hle
  rw [← h, BitVec.getLsbD_and, maskAuipc_bits i (by omega), decide_eq_true hi, Bool.and_true]

theorem decodeAt_auipc (h : word &&& maskAuipc = matchAuipc) :
    decodeAt w word = some (.auipc (Machine.rdOf word) (upperOf word), 4) := by
  rw [decodeAt, if_pos ((low_bits_of_opcode h (by decide)).trans (by decide)),
    decode_auipc ((low_bits_of_opcode h (by decide)).trans (by decide))]
  rfl

theorem decodeAt_lui (h : word &&& maskAuipc = matchLui) :
    decodeAt w word = some (.lui (Machine.rdOf word) (upperOf word), 4) := by
  have hop : word.extractLsb' 0 7 = 0x37#7 := (low_bits_of_opcode h (by decide)).trans (by decide)
  rw [decodeAt, if_pos ((low_bits_of_opcode h (by decide)).trans (by decide)), decode, hop]
  rfl

/-- The upper immediate, as the machine adds it. -/
theorem upper_upperOf (hw : w ≤ 64) : upper w (upperOf word) = (extractUtypeImm word).setWidth w := by
  have hagree : AgreeOn [⟨12, 20, 12⟩] word (encodeUtypeImm ((upperOf word ++ (0 : BitVec 12)).setWidth 64)) := by
    intro f hf i hi
    rw [encodeUtypeImm, getLsbD_scatter_field _ utype_format.fits utype_format.apart hf hi]
    obtain rfl := List.mem_singleton.mp hf
    have hi' : i < 20 := hi
    rw [BitVec.getLsbD_setWidth, BitVec.getLsbD_append, upperOf, BitVec.getLsbD_extractLsb']
    simp [hi', show 12 + i < 64 by omega]
  have hmod : ((upperOf word ++ (0 : BitVec 12)).setWidth 64).toNat % 4096 = 0 := by
    rw [BitVec.toNat_setWidth, BitVec.toNat_append, Nat.shiftLeft_eq]
    simp only [BitVec.ofNat_eq_ofNat, BitVec.toNat_ofNat, Nat.zero_mod, Nat.or_zero]
    omega
  have hextract : extractUtypeImm word = (upperOf word ++ (0 : BitVec 12)).signExtend 64 :=
    calc extractUtypeImm word
      _ = extractUtypeImm (encodeUtypeImm ((upperOf word ++ (0 : BitVec 12)).setWidth 64)) := utype_format.congr hagree
      _ = sext 32 ((upperOf word ++ (0 : BitVec 12)).setWidth 64) := extract_encodeUtypeImm hmod
      _ = (upperOf word ++ (0 : BitVec 12)).signExtend 64 := by
        rw [sext, BitVec.setWidth_setWidth_of_le _ (by decide), BitVec.setWidth_eq]
  rw [hextract, setWidth_signExtend _ hw, upper]

theorem immOf_signExtend (hw : w ≤ 64) : (immOf word).signExtend w = (extractItypeImm word).setWidth w := by
  rw [extractItypeImm_eq, setWidth_signExtend _ hw, immOf]

end Decode

theorem Xlen.congr_iff (xlen : Xlen) (a b : Vma) : xlen.Congr a b ↔ a.setWidth xlen.bits = b.setWidth xlen.bits := by
  cases xlen with
  | rv32 => exact Iff.rfl
  | rv64 =>
    change a = b ↔ a.setWidth 64 = b.setWidth 64
    rw [BitVec.setWidth_eq, BitVec.setWidth_eq]

/-- When a section is relocated without an error, the first instruction of a pair leaves the address to the second,
which is as it was but for its immediate. -/
theorem PcrelPair.runs {link : Link} {inp : Input} {relocs : List Rela} {st st' : RelocState} {i j : Nat}
    {hi lo : Rela} {s label : RelocSym} (hfinal : link.type ≠ .relocatable) (hhi : st.hiRelocs = [])
    (hlo : st.loRelocs = []) (h : PcrelPair link inp relocs st i j hi lo label)
    (hs : relocSymbol link inp hi = .ok s) (hrun : riscvElfRelocateSection link inp relocs st = .ok st')
    (haddend : ((s.throughPlt link inp).isNone ∧ hi.type = .pcrelHi20) ∨ s.rel.addend.toNat % 4096 = 0) :
    (∃ s₀, relocateLoop link inp (relocs.take i) st = .ok s₀ ∧
      HighRuns link.xlen (link.secAddr inp.sec + hi.offset) (Machine.rdOf (getl 4 st.contents hi.offset.toNat))
        (getl 4 st'.contents hi.offset.toNat) (lowImm lo.type (getl 4 st'.contents lo.offset.toNat))
        (hiTarget link inp s₀ s + s.rel.addend + label.rel.addend)) ∧
    ∀ k < 32, (howto lo.type).dstMask.getLsbD k = false →
      (getl 4 st'.contents lo.offset.toNat).getLsbD k = (getl 4 st.contents lo.offset.toNat).getLsbD k := by
  unfold riscvElfRelocateSection at hrun
  split at hrun
  · exact absurd hrun (by simp)
  rename_i sf hloop
  split at hrun
  · exact absurd hrun (by simp)
  rename_i c hres
  cases hrun
  refine ⟨?_, fun k hk hout => h.low_outside hfinal hlo hloop hres hk hout⟩
  obtain ⟨s₀, hs₀, hplaced⟩ := h.highPart hhi hs hloop
  obtain ⟨hword, entry, hfind, hcarry, himm⟩ := h.resolved hfinal hlo hloop hres
  obtain ⟨base, hp⟩ := hplaced entry hfind
  have hrd := h.high_rd hhi hloop hfind
  rw [RdKept] at hrd
  have htype : s.rel.type = hi.type := by rw [relocSymbol_rel hs]
  have hrec : recordedAddend link inp s = s.rel.addend ∨ recordedAddend link inp s = 0 := by
    unfold recordedAddend
    split
    · exact .inl rfl
    · exact .inr rfl
  have hknown : recordedAddend link inp s = s.rel.addend ∨ s.rel.addend.toNat % 4096 = 0 := by
    refine haddend.imp_left fun hplain => ?_
    rw [recordedAddend, htype, if_pos hplain]
  have hsum := (Xlen.congr_iff ..).mp ((hp.pair_iff hrec hcarry).mpr hknown)
  have hle : link.xlen.bits ≤ 64 := by cases link.xlen <;> decide
  rw [BitVec.setWidth_add _ _ hle, BitVec.setWidth_add _ _ hle] at hsum
  refine ⟨s₀, hs₀, ?_⟩
  rw [hword, ← hrd, lowImm_pcrelLo h.loType, himm]
  rcases hp.opcode with ⟨rfl, hop⟩ | ⟨rfl, hop⟩
  · refine ⟨_, _, decodeAt_auipc (hop.trans h.auipc), hsum, fun mem t ht => ?_⟩
    rw [exec, ht, upper_upperOf hle]
  · refine ⟨_, _, decodeAt_lui hop, hsum, fun mem t _ => ?_⟩
    have hzero : (0 : Vma).setWidth link.xlen.bits = 0 := BitVec.setWidth_zero ..
    rw [exec, upper_upperOf hle, hzero]
    congr 2
    exact (BitVec.zero_add _).symm

end RiscvBinutils.Bfd
