/-
Room in the GOT (bfd/elfnn-riscv.c): what `riscv_elf_size_dynamic_sections` and `allocate_dynrelocs`
reserve for each symbol, and what `riscv_elf_relocate_section` then uses of it.
-/
import RiscvBinutils.Base.Bump
import RiscvBinutils.Bfd.Relocate

namespace RiscvBinutils.Bfd

open RiscvBinutils.Base

/-! ## Sizing -/

/-- Who owns a GOT entry: a local symbol of an input file, or an entry of the hash table. -/
inductive GotKey
  | loc (input sym : Nat)
  | glob (entry : Nat)
  deriving DecidableEq, Repr

/-- A local symbol at sizing time: `local_got_refcounts` and `local_got_tls_type`. -/
structure LocalGot where
  refcount : Int
  tlsType : GotType := {}
  deriving DecidableEq, Repr

/-- A hash entry at sizing time: its position, `got.refcount`, and the `dynsymcount` it would be given. -/
structure GlobalGot where
  entry : Nat
  h : HashEntry
  refcount : Int
  dynsymcount : Int := 1
  deriving DecidableEq, Repr

/-- `bfd_elf_link_record_dynamic_symbol`, as `allocate_dynrelocs` calls it. -/
def recordDynamicSymbol (dynsymcount : Int) (h : HashEntry) : HashEntry :=
  if h.dynindx = -1 ∧ h.forcedLocal = false then
    if (h.other = .stvInternal ∨ h.other = .stvHidden) ∧ h.rootType ≠ .undefined ∧ h.rootType ≠ .undefweak
    then { h with forcedLocal := true }
    else { h with dynindx := dynsymcount }
  else h

/-- The body of the loop over the local symbols: one word, a second one for GD, and one relocation in
position-independent output or for TLS. -/
def localRequest (link : Link) (input sym : Nat) (g : LocalGot) : Request GotKey where
  key := .loc input sym
  need :=
    if 0 < g.refcount then
      some ((if g.tlsType.gd then 2 else 1) * link.xlen.wordBytes,
        if link.pic ∨ g.tlsType.gd ∨ g.tlsType.ie then 1 else 0)
    else none

/-- The GOT part of `allocate_dynrelocs`; the entries of IFUNCs are made elsewhere. -/
def globalRequest (link : Link) (g : GlobalGot) : Option (Request GotKey) :=
  if g.h.rootType = .indirect then none
  else if g.h.type = .gnuIfunc ∧ g.h.defRegular then none
  else
    let h := recordDynamicSymbol g.dynsymcount g.h
    let t := h.tlsType
    some
      { key := .glob g.entry
        need :=
          if 0 < g.refcount then
            if t.gd ∨ t.ie then
              let slots := (if t.gd then 2 else 0) + (if t.ie then 1 else 0)
              some (slots * link.xlen.wordBytes, if (riscvTlsGdIeNeedDynReloc link (some h)).2 then slots else 0)
            else
              some (link.xlen.wordBytes,
                if willCallFinishDynamicSymbol link h ∧ undefweakNoDynamicReloc link h = false then 1 else 0)
          else none }

/-- The requests in the order of the loops: the local symbols of each input file, then the hash table. -/
def gotRequests (link : Link) (inputs : List (List LocalGot)) (globals : List GlobalGot) : List (Request GotKey) :=
  (inputs.zipIdx.flatMap fun i => i.1.zipIdx.map fun s => localRequest link i.2 s.2 s.1) ++
    globals.filterMap (globalRequest link)

/-- The GOT part of `riscv_elf_size_dynamic_sections`; the GOT begins with a header of one word.  `top` is
the size of `.got`, `weight` the number of entries of `.rela.got`. -/
def sizeGot (link : Link) (inputs : List (List LocalGot)) (globals : List GlobalGot) : Bump GotKey :=
  (gotRequests link inputs globals).foldl Bump.serve { top := link.xlen.wordBytes }

/-- `got.offset` after sizing. -/
def gotOffsetOf (b : Bump GotKey) (key : GotKey) : Vma :=
  match b.offset key with
  | none => -1
  | some off => BitVec.ofNat 64 off

/-! ## The room is laid out without overlap -/

theorem globalRequest_key {link : Link} {g : GlobalGot} {r : Request GotKey} (h : globalRequest link g = some r) :
    r.key = .glob g.entry := by
  unfold globalRequest at h
  split at h
  · exact absurd h (by simp)
  · split at h
    · exact absurd h (by simp)
    · cases h
      rfl

/-- No symbol asks twice. -/
theorem gotRequests_nodup (link : Link) (inputs : List (List LocalGot)) {globals : List GlobalGot}
    (h : (globals.map (·.entry)).Nodup) : ((gotRequests link inputs globals).map (·.key)).Nodup := by
  have hidx {α : Type} (l : List α) : l.zipIdx.Pairwise fun a b => a.2 ≠ b.2 := by
    have hnodup : (l.zipIdx.map Prod.snd).Nodup := by
      rw [List.zipIdx_map_snd]
      exact List.nodup_range' ..
    exact List.pairwise_map.mp hnodup
  rw [gotRequests, List.map_append, List.map_flatMap, List.nodup_append]
  refine ⟨?_, ?_, ?_⟩
  · rw [List.nodup_flatMap]
    constructor
    · intro i _
      rw [List.map_map]
      refine List.pairwise_map.mpr ((hidx i.1).imp ?_)
      intro a b hab heq
      injection heq with _ hsym
      exact hab hsym
    · refine (hidx inputs).imp ?_
      intro a b hab k hka hkb
      simp only [List.map_map, List.mem_map, Function.comp_apply] at hka hkb
      obtain ⟨x, -, rfl⟩ := hka
      obtain ⟨y, -, heq⟩ := hkb
      injection heq with hin
      exact hab hin.symm
  · refine List.pairwise_map.mpr (List.pairwise_filterMap.mpr ((List.pairwise_map.mp h).imp ?_))
    intro a b hab r hr r' hr' heq
    rw [globalRequest_key hr, globalRequest_key hr'] at heq
    injection heq with hentry
    exact hab hentry
  · intro k hk k' hk' heq
    subst heq
    simp only [List.mem_flatMap, List.map_map, List.mem_map, Function.comp_apply, List.mem_filterMap] at hk hk'
    obtain ⟨i, -, x, -, rfl⟩ := hk
    obtain ⟨r, ⟨g, -, hr⟩, heq⟩ := hk'
    rw [globalRequest_key hr] at heq
    exact absurd heq (by simp [localRequest])

/-- Every request is for whole words. -/
theorem gotRequests_dvd {link : Link} {inputs : List (List LocalGot)} {globals : List GlobalGot}
    {r : Request GotKey} (hr : r ∈ gotRequests link inputs globals) : ∀ n ∈ r.need, link.xlen.wordBytes ∣ n.1 := by
  intro n hn
  rcases List.mem_append.mp hr with hl | hg
  · simp only [List.mem_flatMap, List.mem_map] at hl
    obtain ⟨i, -, x, -, rfl⟩ := hl
    unfold localRequest at hn
    dsimp only at hn
    split at hn
    · cases hn
      exact Nat.dvd_mul_left ..
    · exact absurd hn (by simp)
  · obtain ⟨g, -, hg⟩ := List.mem_filterMap.mp hg
    unfold globalRequest at hg
    split at hg
    · exact absurd hg (by simp)
    · split at hg
      · exact absurd hg (by simp)
      · cases hg
        dsimp only at hn
        split at hn
        · split at hn
          · cases hn
            exact Nat.dvd_mul_left ..
          · cases hn
            exact Nat.dvd_refl _
        · exact absurd hn (by simp)

/-- The GOT as laid out: entries apart, on word boundaries, and the relocations added up. -/
theorem sizeGot_ok (link : Link) (inputs : List (List LocalGot)) {globals : List GlobalGot}
    (h : (globals.map (·.entry)).Nodup) : (sizeGot link inputs globals).Ok link.xlen.wordBytes := by
  refine Bump.Ok.serveAll _ ?_ (gotRequests_nodup link inputs h) ?_ fun r hr => gotRequests_dvd hr
  · exact ⟨by simp, List.Pairwise.nil, by simp, rfl, Nat.dvd_refl _, by simp⟩
  · simp

/-! ## What a round does to the GOT -/

/-- The state a part of the work ends in, with or without an error. -/
def RelocOutcome.state : RelocOutcome → RelocState
  | .ok st => st
  | .error (_, st) => st

/-- The entries of `.rela.got` so far. -/
def RelocState.gotRelas (st : RelocState) : Nat := st.relas.countP fun r => r.1 = .srelgot

/-- GOT entries, their offsets and `.rela.got` stay as they are. -/
structure GotFrame (st st' : RelocState) : Prop where
  global : st'.globalGot = st.globalGot
  loc : st'.localGot = st.localGot
  writes : st'.gotWrites = st.gotWrites
  relas : st'.gotRelas = st.gotRelas

section Frame

variable {link : Link} {inp : Input} {st : RelocState} {s : RelocSym} {rel : Rela}

theorem GotFrame.refl (st : RelocState) : GotFrame st st := ⟨rfl, rfl, rfl, rfl⟩

theorem GotFrame.after {st₁ st₂ : RelocState} (h' : GotFrame st₁ st₂) (h : GotFrame st st₁) : GotFrame st st₂ :=
  ⟨h'.global.trans h.global, h'.loc.trans h.loc, h'.writes.trans h.writes, h'.relas.trans h.relas⟩

theorem doRelocation_gotFrame (value : Vma) : GotFrame st (doRelocation link inp st rel value).state := by
  unfold doRelocation
  split <;> exact ⟨rfl, rfl, rfl, rfl⟩

theorem placeRelocation_gotFrame (unresolved : Bool) (value : Vma) :
    GotFrame st (placeRelocation link inp st s unresolved rel value).state := by
  unfold placeRelocation
  split
  · exact .refl st
  · exact doRelocation_gotFrame value

theorem placeJump_gotFrame (value : Vma) : GotFrame st (placeJump link inp st s value).state := by
  unfold placeJump
  split
  · exact placeRelocation_gotFrame ..
  · split
    · exact placeRelocation_gotFrame ..
    · split
      · exact .refl st
      · exact placeRelocation_gotFrame ..

theorem placePcrelHi_gotFrame (unresolved : Bool) (relocation value : Vma) :
    GotFrame st (placePcrelHi link inp st s unresolved relocation value).state := by
  unfold placePcrelHi
  dsimp only
  exact (placeRelocation_gotFrame ..).after ⟨rfl, rfl, rfl, rfl⟩

/-- The TLS relocations that use the GOT. -/
def RelocType.isTlsGot : RelocType → Bool
  | .tlsGotHi20 | .tlsGdHi20 => true
  | _ => false

variable (link inp st s) in
/-- The three ways in which the switch treats the GOT. -/
theorem relocatePlain_got :
    GotFrame st (relocatePlain link inp st s).state ∨
      ∃ sgot, link.sgot = some sgot ∧
        (s.rel.type = .gotHi20 ∧ GotFrame (fillGot link sgot st s).1 (relocatePlain link inp st s).state ∨
          s.rel.type.isTlsGot ∧ GotFrame (fillTlsGot link inp sgot st s).1 (relocatePlain link inp st s).state) := by
  have hset (contents : List Byte) : GotFrame st { st with contents } := ⟨rfl, rfl, rfl, rfl⟩
  unfold relocatePlain
  dsimp only
  split
  all_goals rename_i htype
  case h_21 =>
    split
    · exact .inl (.refl st)
    · rename_i sgot hsgot
      refine .inr ⟨sgot, hsgot, .inl ⟨htype, ?_⟩⟩
      split
      · exact .refl _
      · exact placePcrelHi_gotFrame ..
  case h_49 | h_50 =>
    split
    · exact .inl (.refl st)
    · rename_i sgot hsgot
      refine .inr ⟨sgot, hsgot, .inr ⟨htype ▸ rfl, ?_⟩⟩
      exact (placeRelocation_gotFrame ..).after ⟨rfl, rfl, rfl, rfl⟩
  all_goals left
  case h_19 => split <;> exact ⟨rfl, rfl, rfl, rfl⟩
  case h_20 =>
    split
    · exact .refl st
    · split
      · exact (placeRelocation_gotFrame ..).after ⟨rfl, rfl, rfl, rfl⟩
      · exact .refl st
  case h_31 | h_32 =>
    split
    · exact (placeJump_gotFrame _).after (hset _)
    · exact placeJump_gotFrame _
  case h_33 | h_34 => exact placeJump_gotFrame _
  case h_38 | h_39 =>
    split
    · exact (placeRelocation_gotFrame ..).after (hset _)
    · exact .refl st
  case h_40 | h_41 =>
    split
    · exact (placeRelocation_gotFrame ..).after (hset _)
    · split
      · exact (placeRelocation_gotFrame ..).after (hset _)
      · exact .refl st
  case h_42 => exact placePcrelHi_gotFrame ..
  case h_43 | h_44 => split <;> exact ⟨rfl, rfl, rfl, rfl⟩
  case h_47 | h_48 =>
    split
    · exact placeRelocation_gotFrame ..
    · split
      · exact placeRelocation_gotFrame ..
      · rename_i outrel _ _
        have hrela : GotFrame st (st.appendRela .sreloc outrel) :=
          ⟨rfl, rfl, rfl, by simp [RelocState.gotRelas, RelocState.appendRela]⟩
        split
        · exact (placeRelocation_gotFrame ..).after hrela
        · exact hrela
  all_goals first
    | exact placeRelocation_gotFrame ..
    | exact .refl st

/-- A use of the GOT entry of `s`: its words at most `words`, its relocations at most `relas`, and neither
when the entry has been filled in before. -/
structure GotFill (link : Link) (sgot : Nat) (st : RelocState) (s : RelocSym) (words relas : Nat)
    (st' : RelocState) : Prop where
  offsets : (st'.globalGot = st.globalGot ∧ st'.localGot = st.localGot ∧ st'.gotRelas = st.gotRelas) ∨
    (st'.globalGot = (st.markGot s).globalGot ∧ st'.localGot = (st.markGot s).localGot)
  writes : ∃ ws, st'.gotWrites = ws ++ st.gotWrites ∧
    ∀ w ∈ ws, st.gotOffset s &&& 1 = 0 ∧ w.sec = sgot ∧
      ∃ k < words, w.off = st.gotOffset s + BitVec.ofNat 64 (k * link.xlen.wordBytes)
  grows : st.gotRelas ≤ st'.gotRelas
  relas : st'.gotRelas = st.gotRelas ∨ (st.gotOffset s &&& 1 = 0 ∧ st'.gotRelas ≤ st.gotRelas + relas)

theorem GotFill.frame {sgot words relas : Nat} {st₁ st₂ : RelocState} (h : GotFill link sgot st s words relas st₁)
    (hf : GotFrame st₁ st₂) : GotFill link sgot st s words relas st₂ := by
  constructor
  · rw [hf.global, hf.loc, hf.relas]
    exact h.offsets
  · rw [hf.writes]
    exact h.writes
  · rw [hf.relas]
    exact h.grows
  · rw [hf.relas]
    exact h.relas

@[simp] theorem putGot_gotRelas (sec : Nat) (off value : Vma) : (st.putGot sec off value).gotRelas = st.gotRelas := rfl
@[simp] theorem putGot_gotWrites (sec : Nat) (off value : Vma) :
    (st.putGot sec off value).gotWrites = ⟨sec, off, value⟩ :: st.gotWrites := rfl
@[simp] theorem putGot_globalGot (sec : Nat) (off value : Vma) :
    (st.putGot sec off value).globalGot = st.globalGot := rfl
@[simp] theorem putGot_localGot (sec : Nat) (off value : Vma) : (st.putGot sec off value).localGot = st.localGot := rfl

@[simp] theorem appendRela_gotRelas (r : Rela) : (st.appendRela .srelgot r).gotRelas = st.gotRelas + 1 := by
  simp [RelocState.gotRelas, RelocState.appendRela]

@[simp] theorem appendRela_gotWrites (sec : RelaSection) (r : Rela) :
    (st.appendRela sec r).gotWrites = st.gotWrites := rfl
@[simp] theorem appendRela_globalGot (sec : RelaSection) (r : Rela) :
    (st.appendRela sec r).globalGot = st.globalGot := rfl
@[simp] theorem appendRela_localGot (sec : RelaSection) (r : Rela) : (st.appendRela sec r).localGot = st.localGot := rfl

@[simp] theorem markGot_gotRelas : (st.markGot s).gotRelas = st.gotRelas := by
  unfold RelocState.markGot
  split <;> rfl

@[simp] theorem markGot_gotWrites : (st.markGot s).gotWrites = st.gotWrites := by
  unfold RelocState.markGot
  split <;> rfl

theorem markGot_congr {st₁ : RelocState} (hg : st₁.globalGot = st.globalGot) (hl : st₁.localGot = st.localGot) :
    (st₁.markGot s).globalGot = (st.markGot s).globalGot ∧ (st₁.markGot s).localGot = (st.markGot s).localGot := by
  unfold RelocState.markGot
  split <;> simp [hg, hl]

/-- `R_RISCV_GOT_HI20` uses one word, and a relocation for a local symbol in position-independent output. -/
theorem fillGot_gotFill (sgot : Nat) {relas : Nat} (hrelas : s.h = none → link.pic = true → 1 ≤ relas) :
    GotFill link sgot st s 1 relas (fillGot link sgot st s).1 := by
  have hsame : GotFill link sgot st s 1 relas st := ⟨.inl ⟨rfl, rfl, rfl⟩, ⟨[], rfl, by simp⟩, le_rfl, .inl rfl⟩
  have hput (st₁ : RelocState) (value : Vma) (hg : st₁.globalGot = st.globalGot) (hl : st₁.localGot = st.localGot)
      (hw : st₁.gotWrites = st.gotWrites) (hge : st.gotRelas ≤ st₁.gotRelas) (hr : st₁.gotRelas ≤ st.gotRelas + relas)
      (hoff : st.gotOffset s &&& 1 = 0) :
      GotFill link sgot st s 1 relas ((st₁.putGot sgot (st.gotOffset s) value).markGot s) := by
    refine ⟨.inr (markGot_congr hg hl), ⟨[⟨sgot, st.gotOffset s, value⟩], by simp [hw], ?_⟩, by simpa using hge,
      .inr ⟨hoff, by simpa using hr⟩⟩
    intro w hmem
    rw [List.mem_singleton] at hmem
    subst hmem
    exact ⟨hoff, rfl, 0, by simp⟩
  unfold fillGot
  dsimp only
  split
  · split
    · split
      · exact hsame
      · rename_i hoff
        exact hput st _ rfl rfl rfl le_rfl (by simp) (by simpa using hoff)
    · exact hsame
  · rename_i hnone
    split
    · exact hsame
    · rename_i hoff
      split
      · rename_i hpic
        exact hput _ _ rfl rfl rfl (by simp) (by simpa using hrelas hnone hpic) (by simpa using hoff)
      · exact hput st _ rfl rfl rfl le_rfl (by simp) (by simpa using hoff)

/-- The words that a TLS symbol uses. -/
def GotType.tlsWords (t : GotType) : Nat := (if t.gd then 2 else 0) + (if t.ie then 1 else 0)

/-- The relocations that a TLS symbol uses. -/
def GotType.tlsRelas (t : GotType) (indx : Int) (needRelocs : Bool) : Nat :=
  if needRelocs then (if t.gd then if indx = 0 then 1 else 2 else 0) + (if t.ie then 1 else 0) else 0

/-- At most one relocation for a word. -/
theorem GotType.tlsRelas_le (t : GotType) (indx : Int) (need : Bool) :
    t.tlsRelas indx need ≤ if need then t.tlsWords else 0 := by
  unfold GotType.tlsRelas GotType.tlsWords
  cases need <;> cases t.gd <;> cases t.ie <;> by_cases h : indx = 0 <;> simp [h]

theorem GotType.tlsRelas_zero_le (t : GotType) (need : Bool) :
    t.tlsRelas 0 need ≤ (if t.gd then 1 else 0) + (if t.ie then 1 else 0) := by
  unfold GotType.tlsRelas
  cases need <;> simp

variable (link st) in
theorem fillTlsGd_got (sgot : Nat) (v off : Vma) (indx : Int) (need : Bool) :
    let st' := fillTlsGd link sgot st v off indx need
    st'.globalGot = st.globalGot ∧ st'.localGot = st.localGot ∧
      st'.gotRelas = st.gotRelas + (if need then if indx = 0 then 1 else 2 else 0) ∧
      ∃ ws, st'.gotWrites = ws ++ st.gotWrites ∧
        ∀ w ∈ ws, w.sec = sgot ∧ (w.off = off ∨ w.off = off + BitVec.ofNat 64 link.xlen.wordBytes) := by
  unfold fillTlsGd
  dsimp only
  have htwo (st₁ : RelocState) (v₁ v₂ : Vma)
      (h : st₁.gotWrites = ⟨sgot, off + BitVec.ofNat 64 link.xlen.wordBytes, v₁⟩ :: ⟨sgot, off, v₂⟩ :: st.gotWrites) :
      ∃ ws, st₁.gotWrites = ws ++ st.gotWrites ∧
        ∀ w ∈ ws, w.sec = sgot ∧ (w.off = off ∨ w.off = off + BitVec.ofNat 64 link.xlen.wordBytes) :=
    ⟨[⟨sgot, off + BitVec.ofNat 64 link.xlen.wordBytes, v₁⟩, ⟨sgot, off, v₂⟩], h, by simp⟩
  cases need with
  | true =>
    by_cases hindx : indx = 0
    · simp only [if_pos hindx, if_true]
      exact ⟨rfl, rfl, by simp, htwo _ _ _ rfl⟩
    · simp only [if_neg hindx, if_true]
      exact ⟨rfl, rfl, by simp, htwo _ _ _ rfl⟩
  | false =>
    simp only [Bool.false_eq_true, if_false]
    exact ⟨rfl, rfl, by simp, htwo _ _ _ rfl⟩

variable (link st) in
theorem fillTlsIe_got (sgot : Nat) (v off : Vma) (indx : Int) (need : Bool) :
    let st' := fillTlsIe link sgot st v off indx need
    st'.globalGot = st.globalGot ∧ st'.localGot = st.localGot ∧
      st'.gotRelas = st.gotRelas + (if need then 1 else 0) ∧ ∃ v, st'.gotWrites = ⟨sgot, off, v⟩ :: st.gotWrites := by
  unfold fillTlsIe
  dsimp only
  cases need with
  | true => exact ⟨rfl, rfl, by simp, 0, rfl⟩
  | false => exact ⟨rfl, rfl, by simp, _, rfl⟩

/-- The TLS relocations use the words and the relocations of the symbol's TLS type. -/
theorem fillTlsGot_gotFill (sgot : Nat) :
    GotFill link sgot st s (s.tlsType inp).tlsWords
      ((s.tlsType inp).tlsRelas (riscvTlsGdIeNeedDynReloc link (s.h.map (·.2))).1
        (riscvTlsGdIeNeedDynReloc link (s.h.map (·.2))).2)
      (fillTlsGot link inp sgot st s).1 := by
  unfold fillTlsGot
  dsimp only
  generalize s.tlsType inp = t
  generalize riscvTlsGdIeNeedDynReloc link (s.h.map (·.2)) = need
  split
  · exact ⟨.inr ⟨rfl, rfl⟩, ⟨[], by simp⟩, by simp, .inl (by simp)⟩
  rename_i hflag
  have hoff : st.gotOffset s &&& 1 = 0 := by simpa using hflag
  -- the two GD words
  obtain ⟨st₁, hst₁⟩ : ∃ st₁, st₁ = if t.gd then
      fillTlsGd link sgot (st.markGot s) s.relocation (st.gotOffset s) need.1 need.2 else st.markGot s := ⟨_, rfl⟩
  have hgd : st₁.globalGot = (st.markGot s).globalGot ∧ st₁.localGot = (st.markGot s).localGot ∧
      st₁.gotRelas = st.gotRelas + (if need.2 then if t.gd then if need.1 = 0 then 1 else 2 else 0 else 0) ∧
      ∃ ws, st₁.gotWrites = ws ++ st.gotWrites ∧ ∀ w ∈ ws, t.gd = true ∧ w.sec = sgot ∧
        (w.off = st.gotOffset s ∨ w.off = st.gotOffset s + BitVec.ofNat 64 link.xlen.wordBytes) := by
    cases hgd : t.gd with
    | true =>
      rw [hst₁, if_pos hgd]
      obtain ⟨hg, hl, hr, ws, hws, hw⟩ :=
        fillTlsGd_got link (st.markGot s) sgot s.relocation (st.gotOffset s) need.1 need.2
      exact ⟨hg, hl, by simpa using hr, ws, by simpa using hws, fun w hmem => ⟨rfl, hw w hmem⟩⟩
    | false =>
      rw [hst₁, if_neg (by simp [hgd])]
      exact ⟨rfl, rfl, by simp, [], by simp⟩
  rw [← hst₁]
  obtain ⟨hg, hl, hr, ws, hws, hw⟩ := hgd
  have hword {w : GotWrite} (hmem : w ∈ ws) :
      ∃ k < t.tlsWords, w.off = st.gotOffset s + BitVec.ofNat 64 (k * link.xlen.wordBytes) := by
    obtain ⟨hgd, -, heq | heq⟩ := hw w hmem
    · exact ⟨0, by simp [GotType.tlsWords, hgd], by simp [heq]⟩
    · exact ⟨1, by simp [GotType.tlsWords, hgd]; omega, by simp [heq]⟩
  cases hie : t.ie with
  | false =>
    simp only [Bool.false_eq_true, if_false]
    refine ⟨.inr ⟨hg, hl⟩, ⟨ws, hws, fun w hmem => ⟨hoff, (hw w hmem).2.1, hword hmem⟩⟩, by omega, .inr ⟨hoff, ?_⟩⟩
    rw [hr, GotType.tlsRelas, hie]
    simp
  | true =>
    simp only [if_true]
    obtain ⟨hg', hl', hr', v, hv⟩ :=
      fillTlsIe_got link st₁ sgot s.relocation (st.gotOffset s + ieOff link.xlen t) need.1 need.2
    refine ⟨.inr ⟨hg'.trans hg, hl'.trans hl⟩, ⟨⟨sgot, _, v⟩ :: ws, by rw [hv, hws]; rfl, ?_⟩, by omega,
      .inr ⟨hoff, ?_⟩⟩
    · intro w hmem
      rcases List.mem_cons.mp hmem with rfl | hmem
      · refine ⟨hoff, rfl, if t.gd then 2 else 0, ?_, ?_⟩
        · rw [GotType.tlsWords, hie]
          simp
        · cases hgd : t.gd <;> simp [ieOff, hgd, hie]
      · exact ⟨hoff, (hw w hmem).2.1, hword hmem⟩
    · rw [hr', hr, GotType.tlsRelas, hie]
      cases need.2 <;> simp [Nat.add_assoc]

/-- The relocations that use the GOT. -/
def RelocType.usesGot (t : RelocType) : Bool := t = .gotHi20 || t.isTlsGot

/-- What a use of the GOT takes at most: the words and the relocations. -/
def RelocSym.gotUse (link : Link) (inp : Input) (s : RelocSym) : Nat × Nat :=
  if s.rel.type = .gotHi20 then (1, if s.h.isNone ∧ link.pic then 1 else 0)
  else
    let need := riscvTlsGdIeNeedDynReloc link (s.h.map (·.2))
    ((s.tlsType inp).tlsWords, (s.tlsType inp).tlsRelas need.1 need.2)

variable (link inp st s) in
/-- The switch leaves the GOT alone, or uses the entry of the symbol. -/
theorem relocatePlain_gotFill :
    GotFrame st (relocatePlain link inp st s).state ∨
      s.rel.type.usesGot ∧ ∃ sgot, link.sgot = some sgot ∧
        GotFill link sgot st s (s.gotUse link inp).1 (s.gotUse link inp).2 (relocatePlain link inp st s).state := by
  rcases relocatePlain_got link inp st s with h | ⟨sgot, hsgot, ⟨htype, h⟩ | ⟨htype, h⟩⟩
  · exact .inl h
  · refine .inr ⟨by simp [RelocType.usesGot, htype], sgot, hsgot, ?_⟩
    rw [RelocSym.gotUse, if_pos htype]
    exact (fillGot_gotFill sgot fun hnone hpic => by simp [hnone, hpic]).frame h
  · refine .inr ⟨by simp [RelocType.usesGot, htype], sgot, hsgot, ?_⟩
    have hne : s.rel.type ≠ .gotHi20 := by
      intro heq
      rw [heq] at htype
      exact absurd htype (by decide)
    rw [RelocSym.gotUse, if_neg hne]
    exact (fillTlsGot_gotFill sgot).frame h

/-- Only the entry at `p` may have changed. -/
structure OnlyGlobal (p : Nat) (st st' : RelocState) : Prop where
  loc : st'.localGot = st.localGot
  other : ∀ q, q ≠ p → st'.globalGot q = st.globalGot q

theorem OnlyGlobal.of_frame {p : Nat} {st' : RelocState} (h : GotFrame st st') : OnlyGlobal p st st' :=
  ⟨h.loc, fun q _ => by rw [h.global]⟩

theorem OnlyGlobal.of_gotFill {sgot words relas p : Nat} {h : HashEntry} {st' : RelocState} (hh : s.h = some (p, h))
    (hfill : GotFill link sgot st s words relas st') : OnlyGlobal p st st' := by
  rcases hfill.offsets with ⟨hg, hl, -⟩ | ⟨hg, hl⟩
  · exact ⟨hl, fun q _ => by rw [hg]⟩
  · rw [RelocState.markGot, hh] at hg hl
    refine ⟨hl, fun q hq => ?_⟩
    rw [hg]
    exact Function.update_of_ne hq ..

theorem ifuncData_onlyGlobal (p : Nat) (h : HashEntry) (plt : Vma) :
    OnlyGlobal p st (ifuncData link inp st rel h plt).state := by
  unfold ifuncData
  split
  · exact .of_frame (.refl st)
  · split
    · dsimp only
      split
      · exact .of_frame (.refl st)
      · exact ⟨rfl, fun _ _ => rfl⟩
    · exact .of_frame (doRelocation_gotFrame _)

theorem ifuncGot_onlyGlobal {p : Nat} {h : HashEntry} {plt slot : Vma} {st' : RelocState}
    (hg : ifuncGot link st p h plt = some (st', slot)) : OnlyGlobal p st st' := by
  unfold ifuncGot at hg
  split at hg
  · exact absurd hg (by simp)
  · dsimp only at hg
    split at hg
    · cases hg
      exact .of_frame (.refl st)
    · split at hg
      · split at hg
        · cases hg
          exact .of_frame (.refl st)
        · cases hg
          exact ⟨rfl, fun q hq => Function.update_of_ne hq ..⟩
      · cases hg
        exact .of_frame (.refl st)

theorem relocateIfunc_onlyGlobal (p : Nat) (h : HashEntry) :
    OnlyGlobal p st (relocateIfunc link inp st s p h).state := by
  have hdo (st₁ : RelocState) (value : Vma) (h₁ : OnlyGlobal p st st₁) :
      OnlyGlobal p st (doRelocation link inp st₁ s.rel value).state := by
    have hf : GotFrame st₁ (doRelocation link inp st₁ s.rel value).state := doRelocation_gotFrame value
    exact ⟨hf.loc.trans h₁.loc, fun q hq => by rw [hf.global, h₁.other q hq]⟩
  have hsame : OnlyGlobal p st st := .of_frame (.refl st)
  unfold relocateIfunc
  dsimp only
  split
  case h_1 | h_2 => exact ifuncData_onlyGlobal ..
  case h_3 =>
    split
    · exact hsame
    · rename_i hgot
      have h₁ := ifuncGot_onlyGlobal hgot
      exact hdo _ _ ⟨h₁.loc, h₁.other⟩
  case h_7 | h_8 =>
    split
    · exact hsame
    · exact hdo st _ hsame
  case h_9 =>
    split
    · exact hsame
    · exact hdo _ _ ⟨rfl, fun _ _ => rfl⟩
  all_goals first
    | exact hdo st _ hsame
    | exact hsame

variable (link inp st rel) in
/-- What a round does to the GOT. -/
theorem relocateOne_got :
    GotFrame st (relocateOne link inp st rel).state ∨
      ∃ s, relocSymbol link inp rel = .ok s ∧
        ((s.ifunc = none ∧ s.rel.type.usesGot ∧ ∃ sgot, link.sgot = some sgot ∧
            GotFill link sgot st s (s.gotUse link inp).1 (s.gotUse link inp).2 (relocateOne link inp st rel).state) ∨
          ∃ p h, s.ifunc = some (p, h) ∧ OnlyGlobal p st (relocateOne link inp st rel).state) := by
  unfold relocateOne
  split
  · exact .inl (.refl st)
  · rename_i s hs
    split
    · exact .inl ⟨rfl, rfl, rfl, rfl⟩
    · split
      · exact .inl (.refl st)
      · split
        · rename_i hifunc
          rcases relocatePlain_gotFill link inp st s with h | ⟨huse, hfill⟩
          · exact .inl h
          · exact .inr ⟨s, hs, .inl ⟨hifunc, huse, hfill⟩⟩
        · rename_i p h hifunc
          refine .inr ⟨s, hs, .inr ⟨p, h, hifunc, ?_⟩⟩
          have hsame : OnlyGlobal p st st := .of_frame (.refl st)
          dsimp only
          split
          · exact relocateIfunc_onlyGlobal p h
          · split
            · have hh : s.h = some (p, h) := (Option.filter_eq_some_iff.mp hifunc).1
              rcases relocatePlain_gotFill link inp st s with hf | ⟨-, sgot, -, hfill⟩
              · exact .of_frame hf
              · exact .of_gotFill hh hfill
            · split
              · exact hsame
              · exact hsame

end Frame

/-! ## Any order of rounds -/

/-- `h'` is what has become of `h` by the time sections are relocated: dynamic symbols have been renumbered,
PLT entries made, and bytes deleted. -/
structure HashEntry.Settles (h h' : HashEntry) : Prop where
  rest : ∃ defSection defValue size pltOffset nonGotRef dynindx,
    h' = { h with defSection, defValue, size, pltOffset, nonGotRef, dynindx }
  dynamic : h'.dynindx = -1 ↔ h.dynindx = -1
  null : h'.dynindx = 0 ↔ h.dynindx = 0

/-- What `riscv_elf_check_relocs` has seen to for a relocation of file `n`: the symbol of a GOT relocation
has been counted. -/
structure Recorded (inputs : List (List LocalGot)) (globals : List GlobalGot) (n : Nat) (inp : Input)
    (s : RelocSym) : Prop where
  loc : s.rel.type.usesGot → s.h = none → ∃ f g, inputs[n]? = some f ∧ f[s.rel.sym]? = some g ∧ 0 < g.refcount ∧
    g.tlsType = inp.localGotTlsType s.rel.sym
  glob : s.rel.type.usesGot → s.ifunc = none → ∀ p h, s.h = some (p, h) → ∃ g ∈ globals, g.entry = p ∧
    0 < g.refcount ∧ g.h.rootType ≠ .indirect ∧ (recordDynamicSymbol g.dynsymcount g.h).Settles h
  ifunc : ∀ p h, s.ifunc = some (p, h) → ∀ g ∈ globals, g.entry = p → g.h.type = h.type ∧ g.h.defRegular = h.defRegular

/-- The GOT of the whole link: all offsets, and the entries of `.rela.got` for symbols that are no IFUNCs. -/
structure GotState where
  globalGot : Nat → Vma
  localGot : Nat → Nat → Vma
  relas : Nat

def GotState.offset (g : GotState) : GotKey → Vma
  | .loc n sym => g.localGot n sym
  | .glob p => g.globalGot p

/-- After sizing. -/
def gotStart (b : Bump GotKey) : GotState where
  globalGot p := gotOffsetOf b (.glob p)
  localGot n sym := gotOffsetOf b (.loc n sym)
  relas := 0

/-- Whose GOT entry a relocation of file `n` uses. -/
def RelocSym.gotKey (n : Nat) (s : RelocSym) : GotKey :=
  match s.h with
  | some (p, _) => .glob p
  | none => .loc n s.rel.sym

/-- The GOT after a round of file `n` that went from `st` to `st'`; `plain` when the symbol is no IFUNC. -/
def GotState.next (g : GotState) (n : Nat) (plain : Bool) (st st' : RelocState) : GotState where
  globalGot := st'.globalGot
  localGot := Function.update g.localGot n st'.localGot
  relas := g.relas + (if plain then st'.gotRelas - st.gotRelas else 0)

def plainRound (link : Link) (inp : Input) (rel : Rela) : Bool :=
  match relocSymbol link inp rel with
  | .ok s => s.ifunc.isNone
  | .error _ => false

/-- A round for file `n` may start: it sees the offsets of the link, and its symbol has been counted. -/
structure GotRound (link : Link) (inputs : List (List LocalGot)) (globals : List GlobalGot) (g : GotState) (n : Nat)
    (inp : Input) (st : RelocState) (rel : Rela) : Prop where
  global : st.globalGot = g.globalGot
  loc : st.localGot = g.localGot n
  recorded : ∀ s, relocSymbol link inp rel = .ok s → Recorded inputs globals n inp s

/-- The states of the GOT while the sections of a link are relocated, in any order. -/
inductive GotReach (link : Link) (inputs : List (List LocalGot)) (globals : List GlobalGot) : GotState → Prop
  | start : GotReach link inputs globals (gotStart (sizeGot link inputs globals))
  | round {g : GotState} {n : Nat} {inp : Input} {st : RelocState} {rel : Rela} : GotReach link inputs globals g →
      GotRound link inputs globals g n inp st rel →
      GotReach link inputs globals (g.next n (plainRound link inp rel) st (relocateOne link inp st rel).state)

/-- What `riscv_elf_finish_dynamic_symbol` appends to `.rela.got`, for a symbol that has a GOT entry and is
no IFUNC. -/
def finishRelas (link : Link) (globals : List GlobalGot) : GotKey → Nat
  | .loc .. => 0
  | .glob p =>
    match globals.find? (·.entry = p) with
    | none => 0
    | some g =>
      let h := recordDynamicSymbol g.dynsymcount g.h
      if willCallFinishDynamicSymbol link h ∧ ¬(h.tlsType.gd ∨ h.tlsType.ie) ∧ undefweakNoDynamicReloc link h = false
      then 1 else 0

/-- No local symbol is used through both TLS models. -/
def NoMixedLocalTls (inputs : List (List LocalGot)) : Prop :=
  ∀ f ∈ inputs, ∀ g ∈ f, 0 < g.refcount → ¬(g.tlsType.gd ∧ g.tlsType.ie)

/-- Recording a dynamic symbol keeps its type and where it is defined. -/
theorem recordDynamicSymbol_kind (dynsymcount : Int) (h : HashEntry) :
    (recordDynamicSymbol dynsymcount h).type = h.type ∧
      (recordDynamicSymbol dynsymcount h).defRegular = h.defRegular := by
  unfold recordDynamicSymbol
  split
  · split <;> exact ⟨rfl, rfl⟩
  · exact ⟨rfl, rfl⟩

instance (inputs : List (List LocalGot)) : Decidable (NoMixedLocalTls inputs) :=
  inferInstanceAs (Decidable (∀ f ∈ inputs, ∀ g ∈ f, 0 < g.refcount → ¬(g.tlsType.gd ∧ g.tlsType.ie)))

section Settles

variable {h h' : HashEntry}

theorem HashEntry.Settles.tlsType (hs : h.Settles h') : h'.tlsType = h.tlsType := by
  obtain ⟨_, _, _, _, _, _, rfl⟩ := hs.rest
  rfl

theorem HashEntry.Settles.willCall (hs : h.Settles h') (link : Link) :
    willCallFinishDynamicSymbol link h' = willCallFinishDynamicSymbol link h := by
  obtain ⟨⟨_, _, _, _, _, _, rfl⟩, hdyn, -⟩ := hs
  simp only [willCallFinishDynamicSymbol, ne_eq] at hdyn ⊢
  rw [decide_eq_decide.mpr (not_congr hdyn)]

theorem HashEntry.Settles.refsLocal (hs : h.Settles h') (link : Link) :
    symbolReferencesLocal link h' = symbolReferencesLocal link h := by
  obtain ⟨⟨_, _, _, _, _, _, rfl⟩, hdyn, -⟩ := hs
  dsimp only at hdyn
  simp only [symbolReferencesLocal, symbolRefsLocal, elfCommonDef, symbolicBind]
  by_cases hnone : h.dynindx = -1
  · simp only [if_pos hnone, if_pos (hdyn.mpr hnone)]
  · simp only [if_neg hnone, if_neg (mt hdyn.mp hnone)]
    rfl

/-- Whether a TLS symbol needs relocations is known at sizing time. -/
theorem HashEntry.Settles.need (hs : h.Settles h') (link : Link) :
    (riscvTlsGdIeNeedDynReloc link (some h')).2 = (riscvTlsGdIeNeedDynReloc link (some h)).2 := by
  have hw := hs.willCall link
  have hr := hs.refsLocal link
  have hzero : (riscvTlsGdIeNeedDynReloc link (some h')).1 = 0 ↔ (riscvTlsGdIeNeedDynReloc link (some h)).1 = 0 := by
    simp only [riscvTlsGdIeNeedDynReloc, hw, hr, ne_eq, hs.dynamic]
    split
    · exact hs.null
    · rfl
  have hother : h'.other = h.other ∧ h'.rootType = h.rootType := by
    obtain ⟨_, _, _, _, _, _, rfl⟩ := hs.rest
    exact ⟨rfl, rfl⟩
  have hsnd (h : HashEntry) : (riscvTlsGdIeNeedDynReloc link (some h)).2 =
      ((link.type = .dll || decide ((riscvTlsGdIeNeedDynReloc link (some h)).1 ≠ 0)) &&
        (h.other = .stvDefault || h.rootType ≠ .undefweak)) := rfl
  rw [hsnd, hsnd, hother.1, hother.2, decide_eq_decide.mpr (not_congr hzero)]

end Settles

/-! ## The room is enough -/

section Enough

variable {link : Link} {inputs : List (List LocalGot)} {globals : List GlobalGot} {n : Nat} {inp : Input} {s : RelocSym}

theorem localRequest_mem {f : List LocalGot} {g : LocalGot} {sym : Nat} (hf : inputs[n]? = some f)
    (hg : f[sym]? = some g) : localRequest link n sym g ∈ gotRequests link inputs globals := by
  refine List.mem_append_left _ (List.mem_flatMap.mpr ⟨(f, n), ?_, ?_⟩)
  · exact List.mk_mem_zipIdx_iff_getElem?.mpr hf
  · exact List.mem_map.mpr ⟨(g, sym), List.mk_mem_zipIdx_iff_getElem?.mpr hg, rfl⟩

theorem globalRequest_mem {g : GlobalGot} {r : Request GotKey} (hg : g ∈ globals) (hr : globalRequest link g = some r) :
    r ∈ gotRequests link inputs globals :=
  List.mem_append_right _ (List.mem_filterMap.mpr ⟨g, hg, hr⟩)

/-- The entry of the table at a position. -/
theorem find_entry (hnodup : (globals.map (·.entry)).Nodup) {g : GlobalGot} (hg : g ∈ globals) :
    globals.find? (·.entry = g.entry) = some g := by
  induction globals with
  | nil => exact absurd hg List.not_mem_nil
  | cons x xs ih =>
    rw [List.map_cons, List.nodup_cons] at hnodup
    rcases List.mem_cons.mp hg with rfl | hg
    · simp
    · have hne : x.entry ≠ g.entry := fun heq => hnodup.1 (heq ▸ List.mem_map_of_mem hg)
      rw [List.find?_cons_of_neg (by simpa using hne)]
      exact ih hnodup.2 hg

theorem finishRelas_eq (hnodup : (globals.map (·.entry)).Nodup) {g : GlobalGot} (hg : g ∈ globals) :
    finishRelas link globals (.glob g.entry) =
      if willCallFinishDynamicSymbol link (recordDynamicSymbol g.dynsymcount g.h) ∧
          ¬((recordDynamicSymbol g.dynsymcount g.h).tlsType.gd ∨ (recordDynamicSymbol g.dynsymcount g.h).tlsType.ie) ∧
          undefweakNoDynamicReloc link (recordDynamicSymbol g.dynsymcount g.h) = false
      then 1 else 0 := by
  rw [finishRelas, find_entry hnodup hg]

variable (link n) in
/-- What is reserved for a symbol of a file covers each use of it, provided that it is not used through both
TLS models. -/
theorem localRequest_covers {g : LocalGot} (hcount : 0 < g.refcount) (hmix : ¬(g.tlsType.gd ∧ g.tlsType.ie))
    (hnone : s.h = none) (htls : g.tlsType = inp.localGotTlsType s.rel.sym) :
    ∃ len weight, (localRequest link n s.rel.sym g).need = some (len, weight) ∧
      (s.gotUse link inp).1 * link.xlen.wordBytes ≤ len ∧ (s.gotUse link inp).2 ≤ weight := by
  refine ⟨_, _, by rw [localRequest, if_pos hcount], ?_, ?_⟩
  · apply Nat.mul_le_mul_right
    unfold RelocSym.gotUse
    split
    · dsimp only
      split <;> omega
    · have ht : s.tlsType inp = g.tlsType := by rw [RelocSym.tlsType, hnone, htls]
      rw [ht, GotType.tlsWords]
      cases hgd : g.tlsType.gd <;> cases hie : g.tlsType.ie <;> simp_all
  · unfold RelocSym.gotUse
    split
    · dsimp only
      split
      · rename_i hpic
        rw [if_pos (.inl hpic.2)]
      · exact Nat.zero_le _
    · have ht : s.tlsType inp = g.tlsType := by rw [RelocSym.tlsType, hnone, htls]
      dsimp only
      rw [ht, hnone]
      -- a local symbol has no dynamic index, so one relocation does for the two GD words
      refine (GotType.tlsRelas_zero_le _ _).trans ?_
      cases hgd : g.tlsType.gd <;> cases hie : g.tlsType.ie <;> simp_all

variable (link inp) in
/-- What is reserved for an entry of the hash table covers each use of it, and what is appended at the end. -/
theorem globalRequest_covers (hnodup : (globals.map (·.entry)).Nodup) {g : GlobalGot} (hg : g ∈ globals) {h : HashEntry}
    (hcount : 0 < g.refcount) (hindirect : g.h.rootType ≠ .indirect)
    (hset : (recordDynamicSymbol g.dynsymcount g.h).Settles h) (hh : s.h = some (g.entry, h))
    (hifunc : s.ifunc = none) :
    ∃ r len weight, globalRequest link g = some r ∧ r.need = some (len, weight) ∧
      (s.gotUse link inp).1 * link.xlen.wordBytes ≤ len ∧
      (s.gotUse link inp).2 + finishRelas link globals (.glob g.entry) ≤ weight := by
  have hkind : ¬(g.h.type = .gnuIfunc ∧ g.h.defRegular) := by
    intro hk
    have hrec := recordDynamicSymbol_kind g.dynsymcount g.h
    obtain ⟨_, _, _, _, _, _, rfl⟩ := hset.rest
    rw [RelocSym.ifunc, hh] at hifunc
    simp [Option.filter, hrec, hk] at hifunc
  have htls : s.tlsType inp = (recordDynamicSymbol g.dynsymcount g.h).tlsType := by
    rw [RelocSym.tlsType, hh]
    exact hset.tlsType
  have hneed := hset.need link
  rw [finishRelas_eq hnodup hg, globalRequest, if_neg hindirect, if_neg hkind]
  generalize recordDynamicSymbol g.dynsymcount g.h = e at htls hneed ⊢
  have huse : s.gotUse link inp = if s.rel.type = .gotHi20 then (1, 0) else
      (e.tlsType.tlsWords, e.tlsType.tlsRelas (riscvTlsGdIeNeedDynReloc link (some h)).1
        (riscvTlsGdIeNeedDynReloc link (some e)).2) := by
    rw [RelocSym.gotUse, htls, hh]
    simp [hneed]
  rw [huse]
  by_cases ht : e.tlsType.gd ∨ e.tlsType.ie
  · refine ⟨_, _, _, rfl, by dsimp only; rw [if_pos hcount, if_pos ht], ?_, ?_⟩
    · apply Nat.mul_le_mul_right
      split
      · show 1 ≤ e.tlsType.tlsWords
        unfold GotType.tlsWords
        rcases ht with hgd | hie
        · simp only [hgd, if_true]
          omega
        · simp [hie]
      · exact le_rfl
    · have hfin : ¬(willCallFinishDynamicSymbol link e ∧ ¬(e.tlsType.gd ∨ e.tlsType.ie) ∧
          undefweakNoDynamicReloc link e = false) := fun hf => hf.2.1 ht
      rw [if_neg hfin, Nat.add_zero]
      split
      · exact Nat.zero_le _
      · exact GotType.tlsRelas_le ..
  · refine ⟨_, _, _, rfl, by dsimp only; rw [if_pos hcount, if_neg ht], ?_, ?_⟩
    · rw [not_or, Bool.not_eq_true, Bool.not_eq_true] at ht
      split
      · simp
      · simp [GotType.tlsWords, ht.1, ht.2]
    · have hnot := not_or.mp ht
      have hzero : (if s.rel.type = .gotHi20 then (1, 0) else
          (e.tlsType.tlsWords, e.tlsType.tlsRelas (riscvTlsGdIeNeedDynReloc link (some h)).1
            (riscvTlsGdIeNeedDynReloc link (some e)).2)).2 = 0 := by
        split
        · rfl
        · simp [GotType.tlsRelas, hnot.1, hnot.2]
      rw [hzero, Nat.zero_add]
      simp only [ht, not_false_eq_true, true_and]
      exact le_rfl

/-- The piece of the GOT that a recorded relocation uses is large enough for it. -/
theorem recorded_slot (hnodup : (globals.map (·.entry)).Nodup) (hmix : NoMixedLocalTls inputs)
    (hrec : Recorded inputs globals n inp s) (huse : s.rel.type.usesGot) (hifunc : s.ifunc = none) :
    ∃ t ∈ (sizeGot link inputs globals).slots, t.key = s.gotKey n ∧
      (s.gotUse link inp).1 * link.xlen.wordBytes ≤ t.len ∧
      (s.gotUse link inp).2 + finishRelas link globals t.key ≤ t.weight := by
  cases hh : s.h with
  | none =>
    obtain ⟨f, g, hf, hg, hcount, htls⟩ := hrec.loc huse hh
    have hnomix := hmix f (List.mem_of_getElem? hf) g (List.mem_of_getElem? hg) hcount
    obtain ⟨len, weight, hneed, hlen, hweight⟩ :=
      localRequest_covers link n hcount hnomix hh htls
    obtain ⟨off, hoff⟩ := Bump.exists_slot (localRequest_mem hf hg) hneed { top := link.xlen.wordBytes }
    refine ⟨_, hoff, ?_, hlen, ?_⟩
    · rw [RelocSym.gotKey, hh]
      rfl
    · exact hweight
  | some ph =>
    obtain ⟨p, h⟩ := ph
    obtain ⟨g, hg, rfl, hcount, hindirect, hset⟩ := hrec.glob huse hifunc p h hh
    obtain ⟨r, len, weight, hr, hneed, hlen, hweight⟩ :=
      globalRequest_covers link inp hnodup hg hcount hindirect hset hh hifunc
    obtain ⟨off, hoff⟩ := Bump.exists_slot (globalRequest_mem hg hr) hneed { top := link.xlen.wordBytes }
    have hkey := globalRequest_key hr
    refine ⟨_, hoff, ?_, hlen, ?_⟩
    · rw [RelocSym.gotKey, hh]
      exact hkey
    · rw [hkey]
      exact hweight

/-- What is appended at the end is reserved for each entry. -/
theorem finishRelas_le (hnodup : (globals.map (·.entry)).Nodup) {t : Slot GotKey}
    (ht : t ∈ (sizeGot link inputs globals).slots) : finishRelas link globals t.key ≤ t.weight := by
  obtain ⟨r, hr, hkey, hneed⟩ := Bump.slot_request rfl ht
  rw [← hkey]
  rcases List.mem_append.mp hr with hl | hg
  · simp only [List.mem_flatMap, List.mem_map] at hl
    obtain ⟨i, -, x, -, rfl⟩ := hl
    exact Nat.zero_le _
  · obtain ⟨g, hg, hr⟩ := List.mem_filterMap.mp hg
    rw [globalRequest_key hr, finishRelas_eq hnodup hg]
    unfold globalRequest at hr
    split at hr
    · exact absurd hr (by simp)
    · split at hr
      · exact absurd hr (by simp)
      · cases hr
        dsimp only at hneed
        split at hneed
        · split at hneed
          · rename_i htls
            rw [if_neg (fun hf => hf.2.1 htls)]
            exact Nat.zero_le _
          · rename_i htls
            simp only [Option.some.injEq, Prod.mk.injEq] at hneed
            rw [← hneed.2]
            simp only [htls, not_false_eq_true, true_and]
            exact le_rfl
        · exact absurd hneed (by simp)

end Enough

/-! ## The invariant -/

section Invariant

variable {link : Link} {inputs : List (List LocalGot)} {globals : List GlobalGot} {g g' : GotState}

/-- The relocations that the piece `t` has used up or keeps for the end. -/
def GotState.spent (link : Link) (globals : List GlobalGot) (g : GotState) (t : Slot GotKey) : Nat :=
  if g.offset t.key &&& 1 ≠ 0 then t.weight else finishRelas link globals t.key

/-- Every piece stands where it was put, perhaps marked, and no more relocations have been appended than the
marked pieces allow. -/
structure GotInv (link : Link) (inputs : List (List LocalGot)) (globals : List GlobalGot) (g : GotState) : Prop where
  offsets : ∀ t ∈ (sizeGot link inputs globals).slots,
    g.offset t.key = BitVec.ofNat 64 t.off ∨ g.offset t.key = BitVec.ofNat 64 t.off ||| 1
  relas : g.relas + ((sizeGot link inputs globals).slots.map fun t => finishRelas link globals t.key).sum ≤
    ((sizeGot link inputs globals).slots.map (g.spent link globals)).sum

theorem or_one_and_one (x : Vma) : (x ||| 1) &&& 1 ≠ 0 := by
  intro h
  have hbit := congrArg (BitVec.getLsbD · 0) h
  simp at hbit

theorem GotInv.same (hinv : GotInv link inputs globals g)
    (hsame : ∀ t ∈ (sizeGot link inputs globals).slots, g'.offset t.key = g.offset t.key)
    (hrelas : g'.relas = g.relas) :
    GotInv link inputs globals g' := by
  constructor
  · intro t ht
    rw [hsame t ht]
    exact hinv.offsets t ht
  · have hspent : (sizeGot link inputs globals).slots.map (g'.spent link globals) =
        (sizeGot link inputs globals).slots.map (g.spent link globals) := by
      refine List.map_congr_left fun t ht => ?_
      rw [GotState.spent, GotState.spent, hsame t ht]
    rw [hrelas, hspent]
    exact hinv.relas

/-- One piece is marked, and at most `c` relocations are appended for it. -/
theorem GotInv.mark (hnodup : (globals.map (·.entry)).Nodup) (hinv : GotInv link inputs globals g) {t : Slot GotKey}
    {c : Nat} (ht : t ∈ (sizeGot link inputs globals).slots) (hc : c + finishRelas link globals t.key ≤ t.weight)
    (hsame : ∀ k, k ≠ t.key → g'.offset k = g.offset k) (hmark : g'.offset t.key = g.offset t.key ||| 1)
    (hrelas : g'.relas = g.relas ∨ (g.offset t.key &&& 1 = 0 ∧ g'.relas ≤ g.relas + c)) :
    GotInv link inputs globals g' := by
  have hmono : ∀ u ∈ (sizeGot link inputs globals).slots, g.spent link globals u ≤ g'.spent link globals u := by
    intro u hu
    have hfin := finishRelas_le hnodup hu
    unfold GotState.spent
    by_cases hkey : u.key = t.key
    · rw [hkey, hmark, if_pos (or_one_and_one _), ← hkey]
      split
      · exact le_rfl
      · exact hfin
    · rw [hsame u.key hkey]
  constructor
  · intro u hu
    by_cases hkey : u.key = t.key
    · rw [hkey, hmark, ← hkey]
      rcases hinv.offsets u hu with h | h
      · exact .inr (by rw [h])
      · exact .inr (by rw [h, BitVec.or_assoc, BitVec.or_self])
    · rw [hsame u.key hkey]
      exact hinv.offsets u hu
  · have hold := hinv.relas
    rcases hrelas with heq | ⟨hclear, hle⟩
    · rw [heq]
      exact hold.trans (List.sum_le_sum hmono)
    · have hone : g.spent link globals t + c ≤ g'.spent link globals t := by
        rw [GotState.spent, GotState.spent, if_neg (by simpa using hclear), hmark, if_pos (or_one_and_one _)]
        omega
      have hsum := sum_map_add_le ht hmono hone
      omega

variable (link inputs) in
theorem gotStart_inv (hnodup : (globals.map (·.entry)).Nodup) :
    GotInv link inputs globals (gotStart (sizeGot link inputs globals)) := by
  have hok := sizeGot_ok link inputs hnodup
  have hat : ∀ t ∈ (sizeGot link inputs globals).slots,
      (gotStart (sizeGot link inputs globals)).offset t.key = BitVec.ofNat 64 t.off := by
    intro t ht
    have hoff : gotOffsetOf (sizeGot link inputs globals) t.key = BitVec.ofNat 64 t.off := by
      rw [gotOffsetOf, hok.offset t ht]
    cases hkey : t.key with
    | loc n sym => rwa [hkey] at hoff
    | glob p => rwa [hkey] at hoff
  constructor
  · exact fun t ht => .inl (hat t ht)
  · have hzero : (gotStart (sizeGot link inputs globals)).relas = 0 := rfl
    rw [hzero, Nat.zero_add]
    refine List.sum_le_sum fun t ht => ?_
    unfold GotState.spent
    split
    · exact finishRelas_le hnodup ht
    · exact le_rfl

/-- The entry of an IFUNC has no piece of its own. -/
theorem ifunc_no_slot {n : Nat} {inp : Input} {s : RelocSym} {p : Nat}
    {h : HashEntry} (hrec : Recorded inputs globals n inp s) (hifunc : s.ifunc = some (p, h)) {t : Slot GotKey}
    (ht : t ∈ (sizeGot link inputs globals).slots) : t.key ≠ .glob p := by
  intro hkey
  obtain ⟨r, hr, hrkey, -⟩ := Bump.slot_request rfl ht
  rcases List.mem_append.mp hr with hl | hg
  · simp only [List.mem_flatMap, List.mem_map] at hl
    obtain ⟨i, -, x, -, rfl⟩ := hl
    rw [hkey] at hrkey
    exact absurd hrkey (by simp [localRequest])
  · obtain ⟨g, hg, hr⟩ := List.mem_filterMap.mp hg
    rw [globalRequest_key hr, hkey] at hrkey
    injection hrkey with hentry
    obtain ⟨htype, hdef⟩ := hrec.ifunc p h hifunc g hg hentry
    have hkind := (Option.filter_eq_some_iff.mp hifunc).2
    rw [globalRequest] at hr
    split at hr
    · exact absurd hr (by simp)
    · rw [if_pos (by rw [htype, hdef]; simpa using hkind)] at hr
      exact absurd hr (by simp)

/-- The offsets of the link after a round that marks the entry of `s`. -/
theorem next_offset_mark {n : Nat} (plain : Bool) {st st' : RelocState} {s : RelocSym}
    (hg : st.globalGot = g.globalGot) (hl : st.localGot = g.localGot n) (hg' : st'.globalGot = (st.markGot s).globalGot)
    (hl' : st'.localGot = (st.markGot s).localGot) (k : GotKey) :
    (g.next n plain st st').offset k = if k = s.gotKey n then g.offset k ||| 1 else g.offset k := by
  cases hh : s.h with
  | none =>
    simp only [RelocState.markGot, hh, hg, hl] at hg' hl'
    rw [RelocSym.gotKey, hh]
    cases k with
    | glob p => simp [GotState.offset, GotState.next, hg']
    | loc m sym =>
      simp only [GotState.offset, GotState.next, hl', GotKey.loc.injEq]
      by_cases hm : m = n
      · subst hm
        by_cases hsym : sym = s.rel.sym
        · subst hsym
          simp
        · simp [hsym]
      · simp [hm]
  | some ph =>
    obtain ⟨p, h⟩ := ph
    simp only [RelocState.markGot, hh, hg, hl] at hg' hl'
    rw [RelocSym.gotKey, hh]
    cases k with
    | loc m sym => simp [GotState.offset, GotState.next, hl']
    | glob q =>
      simp only [GotState.offset, GotState.next, hg', GotKey.glob.injEq]
      by_cases hq : q = p
      · subst hq
        simp
      · simp [hq]

/-- The entry of the relocation's symbol, in the round and in the link. -/
theorem gotOffset_eq {n : Nat} {st : RelocState} {s : RelocSym} (hg : st.globalGot = g.globalGot)
    (hl : st.localGot = g.localGot n) : st.gotOffset s = g.offset (s.gotKey n) := by
  unfold RelocState.gotOffset RelocSym.gotKey
  cases s.h with
  | none => simp [GotState.offset, hl]
  | some entry => simp [GotState.offset, hg]

/-- A round that leaves the offsets alone, outside one entry of the table. -/
theorem next_offset_same {n : Nat} {plain : Bool} {st st' : RelocState} (hl : st.localGot = g.localGot n)
    (hl' : st'.localGot = st.localGot) {k : GotKey} (hk : ∀ p, k = .glob p → st'.globalGot p = g.globalGot p) :
    (g.next n plain st st').offset k = g.offset k := by
  cases k with
  | glob p => exact hk p rfl
  | loc m sym => simp [GotState.offset, GotState.next, hl', hl]

/-- A round keeps the invariant. -/
theorem GotInv.round (hnodup : (globals.map (·.entry)).Nodup) (hmix : NoMixedLocalTls inputs)
    (hinv : GotInv link inputs globals g) {n : Nat} {inp : Input} {st : RelocState} {rel : Rela}
    (hround : GotRound link inputs globals g n inp st rel) :
    GotInv link inputs globals (g.next n (plainRound link inp rel) st (relocateOne link inp st rel).state) := by
  obtain ⟨hg, hl, hrec⟩ := hround
  rcases relocateOne_got link inp st rel with
    hf | ⟨s, hs, ⟨hifunc, huse, sgot, hsgot, hfill⟩ | ⟨p, h, hifunc, honly⟩⟩
  · refine hinv.same (fun t _ => next_offset_same hl hf.loc fun p _ => by rw [hf.global, hg]) ?_
    simp [GotState.next, hf.relas]
  · have hplain : plainRound link inp rel = true := by simp [plainRound, hs, hifunc]
    rw [hplain]
    rcases hfill.offsets with ⟨hg', hl', hr⟩ | ⟨hg', hl'⟩
    · refine hinv.same (fun t _ => next_offset_same hl hl' fun p _ => by rw [hg', hg]) ?_
      simp [GotState.next, hr]
    · obtain ⟨t, ht, hkey, -, hweight⟩ := recorded_slot hnodup hmix (hrec s hs) huse hifunc
      have hoffset (k : GotKey) := next_offset_mark true hg hl hg' hl' k
      refine hinv.mark hnodup ht hweight (fun k hk => ?_) ?_ ?_
      · rw [hoffset, if_neg (by rwa [← hkey])]
      · rw [hoffset, if_pos hkey]
      · rcases hfill.relas with heq | ⟨hclear, hle⟩
        · exact .inl (by simp [GotState.next, heq])
        · refine .inr ⟨by rw [hkey, ← gotOffset_eq hg hl, hclear], ?_⟩
          simp only [GotState.next, if_true]
          omega
  · have hplain : plainRound link inp rel = false := by simp [plainRound, hs, hifunc]
    rw [hplain]
    refine hinv.same (fun t ht => next_offset_same hl honly.loc fun q hq => ?_) (by simp [GotState.next])
    have hne : q ≠ p := fun heq => ifunc_no_slot (hrec s hs) hifunc ht (heq ▸ hq)
    rw [honly.other q hne, hg]

/-- The invariant holds throughout. -/
theorem GotReach.inv (hnodup : (globals.map (·.entry)).Nodup) (hmix : NoMixedLocalTls inputs)
    (hreach : GotReach link inputs globals g) : GotInv link inputs globals g := by
  induction hreach with
  | start => exact gotStart_inv link inputs hnodup
  | round _ hround ih => exact ih.round hnodup hmix hround

end Invariant

/-! ## A whole section -/

section Sections

variable {link : Link} {inputs : List (List LocalGot)} {globals : List GlobalGot} {n : Nat} {inp : Input}

/-- A round appends, and takes nothing back. -/
theorem relocateOne_gotRelas (st : RelocState) {rel : Rela} {s : RelocSym} (hs : relocSymbol link inp rel = .ok s)
    (hifunc : s.ifunc = none) : st.gotRelas ≤ (relocateOne link inp st rel).state.gotRelas := by
  rcases relocateOne_got link inp st rel with hf | ⟨s', hs', ⟨-, -, sgot, -, hfill⟩ | ⟨p, h, hifunc', -⟩⟩
  · exact hf.relas.ge
  · exact hfill.grows
  · rw [hs] at hs'
    cases hs'
    rw [hifunc] at hifunc'
    exact absurd hifunc' (by simp)

/-- The loop over a section takes the GOT of the link from one reachable state to another. -/
theorem relocateLoop_gotReach (relocs : List Rela) : ∀ {g : GotState} {st : RelocState},
    GotReach link inputs globals g → st.globalGot = g.globalGot → st.localGot = g.localGot n →
    (∀ rel ∈ relocs, ∀ s, relocSymbol link inp rel = .ok s → Recorded inputs globals n inp s) →
    ∃ g', GotReach link inputs globals g' ∧ (relocateLoop link inp relocs st).state.globalGot = g'.globalGot ∧
      (relocateLoop link inp relocs st).state.localGot = g'.localGot n ∧
      ((∀ rel ∈ relocs, ∃ s, relocSymbol link inp rel = .ok s ∧ s.ifunc = none) →
        g'.relas + st.gotRelas = g.relas + (relocateLoop link inp relocs st).state.gotRelas) := by
  induction relocs with
  | nil => exact fun hreach hg hl _ => ⟨_, hreach, hg, hl, fun _ => rfl⟩
  | cons rel relocs ih =>
    intro g st hreach hg hl hrec
    have hstep := hreach.round ⟨hg, hl, hrec rel (List.mem_cons_self ..)⟩
    have hfirst (hplain : ∀ r ∈ rel :: relocs, ∃ s, relocSymbol link inp r = .ok s ∧ s.ifunc = none) :
        (g.next n (plainRound link inp rel) st (relocateOne link inp st rel).state).relas + st.gotRelas =
          g.relas + (relocateOne link inp st rel).state.gotRelas := by
      obtain ⟨s, hs, hifunc⟩ := hplain rel (List.mem_cons_self ..)
      have hge := relocateOne_gotRelas st hs hifunc
      simp only [GotState.next, plainRound, hs, hifunc, Option.isNone_none, if_true]
      omega
    rw [relocateLoop]
    cases hone : relocateOne link inp st rel with
    | error e =>
      rw [hone] at hstep hfirst
      exact ⟨_, hstep, rfl, by simp [GotState.next, RelocOutcome.state], hfirst⟩
    | ok st₁ =>
      rw [hone] at hstep hfirst
      obtain ⟨g', hreach', hg', hl', hrelas⟩ := @ih _ st₁ hstep rfl (by simp [GotState.next, RelocOutcome.state])
        fun r hr => hrec r (List.mem_cons_of_mem _ hr)
      refine ⟨g', hreach', hg', hl', fun hplain => ?_⟩
      have hrest := hrelas fun r hr => hplain r (List.mem_cons_of_mem _ hr)
      have hhead := hfirst hplain
      simp only [RelocOutcome.state] at hrest hhead ⊢
      omega

variable (link inp) in
/-- The low parts that are resolved at the end have nothing to do with the GOT. -/
theorem riscvElfRelocateSection_gotFrame (relocs : List Rela) (st : RelocState) :
    GotFrame (relocateLoop link inp relocs st).state (riscvElfRelocateSection link inp relocs st).state := by
  unfold riscvElfRelocateSection
  split
  · rename_i heq
    rw [heq]
    exact .refl _
  · rename_i heq
    rw [heq]
    split <;> exact ⟨rfl, rfl, rfl, rfl⟩

/-- So does `riscv_elf_relocate_section`. -/
theorem riscvElfRelocateSection_gotReach {relocs : List Rela} {g : GotState} {st : RelocState}
    (hreach : GotReach link inputs globals g) (hg : st.globalGot = g.globalGot) (hl : st.localGot = g.localGot n)
    (hrec : ∀ rel ∈ relocs, ∀ s, relocSymbol link inp rel = .ok s → Recorded inputs globals n inp s) :
    ∃ g', GotReach link inputs globals g' ∧
      (riscvElfRelocateSection link inp relocs st).state.globalGot = g'.globalGot ∧
      (riscvElfRelocateSection link inp relocs st).state.localGot = g'.localGot n ∧
      ((∀ rel ∈ relocs, ∃ s, relocSymbol link inp rel = .ok s ∧ s.ifunc = none) →
        g'.relas + st.gotRelas = g.relas + (riscvElfRelocateSection link inp relocs st).state.gotRelas) := by
  have hf := riscvElfRelocateSection_gotFrame link inp relocs st
  rw [hf.global, hf.loc, hf.relas]
  exact relocateLoop_gotReach relocs hreach hg hl hrec

end Sections

/-! ## Use stays within the reservation -/

/-- What is used of the GOT in state `g` has been reserved: pieces of different symbols lie apart and within
the section, a round writes to the piece of its symbol only, and `.rela.got` has room for all relocations. -/
structure GotCovered (link : Link) (inputs : List (List LocalGot)) (globals : List GlobalGot)
  (g : GotState) : Prop where
  disjoint : ∀ t ∈ (sizeGot link inputs globals).slots, ∀ u ∈ (sizeGot link inputs globals).slots, t.key ≠ u.key →
    t.off + t.len ≤ u.off ∨ u.off + u.len ≤ t.off
  below : ∀ t ∈ (sizeGot link inputs globals).slots, t.off + t.len ≤ (sizeGot link inputs globals).top
  writes : ∀ n inp st rel s, GotRound link inputs globals g n inp st rel → relocSymbol link inp rel = .ok s →
    s.ifunc = none → ∃ ws, (relocateOne link inp st rel).state.gotWrites = ws ++ st.gotWrites ∧
      ∀ w ∈ ws, link.sgot = some w.sec ∧ ∃ t ∈ (sizeGot link inputs globals).slots, t.key = s.gotKey n ∧
        t.off ≤ w.off.toNat ∧ w.off.toNat + link.xlen.wordBytes ≤ t.off + t.len
  relas : g.relas + ((sizeGot link inputs globals).slots.map fun t => finishRelas link globals t.key).sum ≤
    (sizeGot link inputs globals).weight

section Covered

variable {link : Link} {inputs : List (List LocalGot)} {globals : List GlobalGot} {g : GotState}

/-- An unmarked piece is found where it was put. -/
theorem GotInv.offset_toNat (hnodup : (globals.map (·.entry)).Nodup) (hinv : GotInv link inputs globals g)
    (hsize : (sizeGot link inputs globals).top < 2 ^ 64) {t : Slot GotKey}
    (ht : t ∈ (sizeGot link inputs globals).slots) (hclear : g.offset t.key &&& 1 = 0) :
    (g.offset t.key).toNat = t.off := by
  have hbelow := (sizeGot_ok link inputs hnodup).below t ht
  rcases hinv.offsets t ht with h | h
  · rw [h, BitVec.toNat_ofNat, Nat.mod_eq_of_lt (by omega)]
  · rw [h] at hclear
    exact absurd hclear (or_one_and_one _)

/-- As long as no local symbol is used through both TLS models, the use of the GOT stays within what has
been reserved, in whatever order the sections are relocated. -/
theorem gotReach_covered (hnodup : (globals.map (·.entry)).Nodup)
    (hsize : (sizeGot link inputs globals).top < 2 ^ 64) (hmix : NoMixedLocalTls inputs)
    (hreach : GotReach link inputs globals g) : GotCovered link inputs globals g := by
  have hok := sizeGot_ok link inputs hnodup
  have hinv := hreach.inv hnodup hmix
  refine ⟨fun t ht u hu hne => hok.disjoint ht hu hne, hok.below, ?_, ?_⟩
  · intro n inp st rel s hround hs hifunc
    rcases relocateOne_got link inp st rel with
      hf | ⟨s', hs', ⟨-, huse, sgot, hsgot, hfill⟩ | ⟨p, h, hifunc', -⟩⟩
    · exact ⟨[], by simp [hf.writes]⟩
    · rw [hs] at hs'
      cases hs'
      obtain ⟨t, ht, hkey, hlen, -⟩ := recorded_slot hnodup hmix (hround.recorded s hs) huse hifunc
      obtain ⟨ws, hws, hw⟩ := hfill.writes
      refine ⟨ws, hws, fun w hmem => ?_⟩
      obtain ⟨hclear, hsec, k, hk, hoff⟩ := hw w hmem
      rw [gotOffset_eq hround.global hround.loc, ← hkey] at hclear hoff
      have hat := hinv.offset_toNat hnodup hsize ht hclear
      have hbelow := hok.below t ht
      -- the word is the `k`th of the piece
      have hin : k * link.xlen.wordBytes + link.xlen.wordBytes ≤ t.len := by
        rw [← Nat.succ_mul]
        exact (Nat.mul_le_mul_right _ hk).trans hlen
      have hpos : 0 < link.xlen.wordBytes := by cases link.xlen <;> decide
      have hword : w.off.toNat = t.off + k * link.xlen.wordBytes := by
        rw [hoff, BitVec.toNat_add, hat, BitVec.toNat_ofNat, Nat.add_mod_mod, Nat.mod_eq_of_lt (by omega)]
      exact ⟨hsec ▸ hsgot, t, ht, hkey, by omega, by omega⟩
    · rw [hs] at hs'
      cases hs'
      rw [hifunc] at hifunc'
      exact absurd hifunc' (by simp)
  · rw [hok.weight]
    refine hinv.relas.trans (List.sum_le_sum fun t ht => ?_)
    unfold GotState.spent
    split
    · exact le_rfl
    · exact finishRelas_le hnodup ht

end Covered

/-- A static link: code, the GOT, and thread-local data. -/
def gotLink : Link where
  xlen := .rv64
  sections := fun n => { output := some n }
  outputs := fun n => { vma := 0x10000 * BitVec.ofNat 64 (n + 1) }
  ownerSections := [0, 1]
  absSection := 9
  absOutput := 9
  undSection := 8
  splt := 7
  hasSplt := false
  sgot := some 1
  tlsSec := some 0x30000

/-- A file with two thread-local variables; `t` says how the first is used. -/
def gotInput (t : GotType) : Input where
  sec := 0
  elfSections := fun shndx => shndx - 1
  locals := [⟨0, 8, 3, .tls⟩, ⟨8, 8, 3, .tls⟩]
  symHashes := []
  hashes := []
  localGotTlsType := fun sym => if sym = 0 then t else { ie := true }

/-- Both are used. -/
def gotCounts (t : GotType) : List (List LocalGot) := [[⟨1, t⟩, ⟨1, { ie := true }⟩]]

/-- `auipc a0, %tls_ie_pcrel_hi (x)`. -/
def gotRela : Rela := ⟨0, 0, .tlsGotHi20, 0⟩

/-- The round sees the GOT as it has been laid out. -/
def gotBegin (t : GotType) : RelocState where
  contents := [0x17, 0x05, 0, 0]
  localGot := fun sym => gotOffsetOf (sizeGot gotLink (gotCounts t) []) (.loc 0 sym)
  globalGot := fun p => gotOffsetOf (sizeGot gotLink (gotCounts t) []) (.glob p)

theorem gotBegin_round (t : GotType) :
    GotRound gotLink (gotCounts t) [] (gotStart (sizeGot gotLink (gotCounts t) [])) 0 (gotInput t) (gotBegin t)
      gotRela := by
  refine ⟨rfl, rfl, ?_⟩
  intro s hs
  cases hs
  refine ⟨fun _ _ => ⟨_, _, rfl, rfl, Int.one_pos, rfl⟩, ?_, ?_⟩
  · intro _ _ p h hh
    exact absurd hh (by simp)
  · intro p h hh
    exact absurd hh (by simp [RelocSym.ifunc])

/-- After one use of a variable through the initial-exec model. -/
theorem gotReach_covered_once :
    GotCovered gotLink (gotCounts { ie := true }) []
      ((gotStart (sizeGot gotLink (gotCounts { ie := true }) [])).next 0 true (gotBegin { ie := true })
        (relocateOne gotLink (gotInput { ie := true }) (gotBegin { ie := true }) gotRela).state) := by
  refine gotReach_covered (by simp) (by decide) ?_ (GotReach.round .start (gotBegin_round _))
  decide

/-- A local variable used through both models gets two words, and the third word that is written is the one
of the next variable. -/
theorem gotReach_not_covered :
    ¬∀ (link : Link) (inputs : List (List LocalGot)) (globals : List GlobalGot) (g : GotState),
      (globals.map (·.entry)).Nodup → (sizeGot link inputs globals).top < 2 ^ 64 → GotReach link inputs globals g →
      GotCovered link inputs globals g := by
  intro hall
  have hc := hall gotLink (gotCounts { gd := true, ie := true }) [] _ (by simp) (by decide) .start
  obtain ⟨ws, hws, hw⟩ := hc.writes 0 _ _ _ _ (gotBegin_round _) rfl rfl
  have hwrites : (relocateOne gotLink (gotInput { gd := true, ie := true }) (gotBegin { gd := true, ie := true })
      gotRela).state.gotWrites = [⟨1, 24, 0⟩, ⟨1, 16, -0x800⟩, ⟨1, 8, 1⟩] := by decide
  have hslots : (sizeGot gotLink (gotCounts { gd := true, ie := true }) []).slots =
      [⟨.loc 0 1, 24, 8, 1⟩, ⟨.loc 0 0, 8, 16, 1⟩] := by decide
  have hthird : (⟨1, 24, 0⟩ : GotWrite) ∈ ws := by
    rw [hwrites] at hws
    rw [← List.append_nil ws]
    exact hws ▸ List.mem_cons_self ..
  obtain ⟨-, t, ht, hkey, hlow, hhigh⟩ := hw _ hthird
  rw [hslots] at ht
  simp only [List.mem_cons, List.not_mem_nil, or_false] at ht
  rcases ht with rfl | rfl
  · exact absurd hkey (by decide)
  · exact absurd hhigh (by decide)

end RiscvBinutils.Bfd
