/-
Padding in code without relaxation (gas/config/tc-riscv.c, `riscv_make_nops`, `riscv_frag_align_code` and
`riscv_handle_align`; gas/write.c, `cvt_frag_to_fill` and `write_contents`).
Whether the assembler fills an alignment is decided twice: where it is read, and again with the options that are in
force when the whole file has been read.
-/
import RiscvBinutils.Bfd.Align
import RiscvBinutils.Gas.Assemble
import RiscvBinutils.Gas.Mapping

namespace RiscvBinutils.Gas

open RiscvBinutils.Base RiscvBinutils.Bfd RiscvBinutils.Isa

/-! ## Nops -/

/-- The loop of `riscv_make_nops` over the 4-byte nops; `fuel` bounds its rounds. -/
def makeNopsLoop (off bytes : Nat) : (fuel : Nat) → (i : Nat) → List Byte → List Byte
  | 0, _, buf => buf
  | fuel + 1, i, buf =>
    if i < bytes then makeNopsLoop off bytes fuel (i + 4) (putl 4 riscvNop buf (off + i)) else buf

/-- `riscv_make_nops`, at `buf + off`. -/
def riscvMakeNopsAt (buf : List Byte) (off bytes : Nat) : List Byte :=
  let odd : Bool := bytes % 2 = 1
  let buf := if odd then putl 1 0 buf off else buf
  let i := if odd then 1 else 0
  let half : Bool := (bytes - i) % 4 = 2
  let buf := if half then putl 2 rvcNop buf (off + i) else buf
  let i := if half then i + 2 else i
  makeNopsLoop off bytes bytes i buf

/-- One zero byte if the length is odd, then at most one 2-byte nop, then 4-byte nops. -/
def nopSequence (bytes : Nat) : List Byte :=
  (if bytes % 2 = 1 then [0] else []) ++ (if (bytes - bytes % 2) % 4 = 2 then [0x01, 0x00] else []) ++
    (List.replicate (bytes / 4) [0x13, 0x00, 0x00, 0x00]).flatten

/-! ## Frags -/

/-- A frag of the section; what `fr_literal` has behind `fr_fix` is its variable part. -/
structure CodeFrag where
  literal : List Byte
  fix : Nat
  type : FragType := .rsFill
  inside : fix ≤ literal.length

/-- The section while the source is read. -/
structure CodeState where
  options : OptionState
  closed : List CodeFrag := []
  /-- `frag_now`. -/
  now : List Byte := []

/-- What is read for the section: code and data, alignments without a fill value, and options. -/
inductive CodeStmt
  | bytes (content : List Byte)
  /-- `room` is what `frag_var` finds in memory behind the fill value. -/
  | align (n max : Nat) (room : Fin 6 → Byte)
  | option (line : OptionLine)

/-- `frag_align_code`; of the `MAX_MEM_FOR_RS_ALIGN_CODE` bytes the first is the `NOP_OPCODE`. -/
def alignFrag (now : List Byte) (n max : Nat) (room : Fin 6 → Byte) : CodeFrag where
  literal := now ++ 0 :: List.ofFn room
  fix := now.length
  type := .rsAlignCode n max
  inside := by rw [List.length_append]; exact Nat.le_add_right ..

/-- The worst case of `riscv_frag_align_code`, with the bytes before it. -/
def relaxedFrag (now : List Byte) (n : Nat) (rvc : Bool) : CodeFrag where
  literal := riscvMakeNopsAt now now.length (worstCaseBytes n rvc)
  fix := (riscvMakeNopsAt now now.length (worstCaseBytes n rvc)).length
  inside := le_rfl

def readStmt (rps : Rps) (s : CodeState) : CodeStmt → CodeState
  | .bytes content => { s with now := s.now ++ content }
  | .option line => { s with options := sRiscvOption rps s.options line }
  | .align n max room =>
    let rvc := s.options.opts.rvc
    if n = 0 ∨ 2 ^ n ≤ insnAlignment rvc then s
    else if s.options.opts.relax then { s with closed := s.closed ++ [relaxedFrag s.now n rvc], now := [] }
    else { s with closed := s.closed ++ [alignFrag s.now n max room], now := [] }

def readStmts (rps : Rps) (s : CodeState) (prog : List CodeStmt) : CodeState := prog.foldl (readStmt rps) s

/-- `subsegs_finish_section`: the section is aligned, and an empty frag is the last. -/
def CodeState.finish (s : CodeState) (alignment : Nat) (room : Fin 6 → Byte) : List CodeFrag :=
  s.closed ++ [alignFrag s.now alignment 0 room, ⟨[], 0, .rsFill, le_rfl⟩]

/-! ## Writing -/

/-- `riscv_handle_align` for a padding of `bytes` bytes: the literal, `fr_fix` and `fr_var` after it. -/
def riscvHandleAlignAt (relax : Bool) (frag : CodeFrag) (bytes : Nat) : List Byte × Nat × Nat :=
  if relax = false ∧ 0 < bytes then
    let excess := bytes % 4
    let literal := if excess ≠ 0 then riscvMakeNopsAt frag.literal frag.fix excess else frag.literal
    let fix := frag.fix + excess
    (riscvMakeNopsAt literal fix 4, fix, 4)
  else (frag.literal, frag.fix, 1)

/-- `cvt_frag_to_fill` and `write_contents` for one frag; the next one begins `bytes` bytes behind its fixed part. -/
def writeFrag (relax : Bool) (frag : CodeFrag) (bytes : Nat) : List Byte :=
  match frag.type with
  | .rsFill => frag.literal.take frag.fix
  | .rsAlign _ _ | .rsAlignCode _ _ =>
    let (literal, fix, var) := riscvHandleAlignAt relax frag bytes
    let offset := (frag.fix + bytes - fix) / var
    literal.take fix ++ (List.replicate offset (slice literal fix var)).flatten

/-- The frags from `address` on, one after the other. -/
def writeFrags (relax : Bool) : (address : Nat) → List CodeFrag → List (List Byte)
  | _, [] => []
  | address, frag :: frags =>
    let bytes := frag.type.padding (address + frag.fix)
    writeFrag relax frag bytes :: writeFrags relax (address + frag.fix + bytes) frags

/-- The section in the object file, frag by frag: `riscv_opts.relax` is what the last directive has left. -/
def writeSection (rps : Rps) (start : CodeState) (prog : List CodeStmt) (alignment : Nat) (room : Fin 6 → Byte) :
    List (List Byte) :=
  let s := readStmts rps start prog
  writeFrags s.options.opts.relax 0 (s.finish alignment room)

/-! ## What is written as nops -/

theorem makeNopsLoop_eq (off bytes : Nat) : ∀ (fuel i : Nat) (buf : List Byte), off + i ≤ buf.length →
    (bytes - i) % 4 = 0 → bytes - i ≤ fuel →
    makeNopsLoop off bytes fuel i buf =
      splice buf (off + i) (List.replicate ((bytes - i) / 4) [0x13, 0x00, 0x00, 0x00]).flatten
  | 0, i, buf, _, _, hfuel => by
    rw [makeNopsLoop, Nat.le_zero.mp hfuel]
    exact splice_nil.symm
  | fuel + 1, i, buf, hin, hmod, hfuel => by
    rw [makeNopsLoop]
    split
    · rename_i hlt
      have hput : putl 4 riscvNop buf (off + i) = splice buf (off + i) [0x13, 0x00, 0x00, 0x00] := rfl
      have hcount : (bytes - i) / 4 = (bytes - (i + 4)) / 4 + 1 := by omega
      have hlen := @splice_length_le buf [0x13, 0x00, 0x00, 0x00] (off + i) hin
      change off + i + 4 ≤ _ at hlen
      rw [hput, makeNopsLoop_eq off bytes fuel (i + 4) _ (by omega) (by omega) (by omega), hcount,
        List.replicate_succ, List.flatten_cons, ← splice_append _ _ hin]
      rfl
    · rw [show (bytes - i) / 4 = 0 by omega]
      exact splice_nil.symm

theorem makeNopsLoop_after {buf pre : List Byte} {off bytes : Nat} (hin : off ≤ buf.length)
    (hmod : (bytes - pre.length) % 4 = 0) :
    makeNopsLoop off bytes bytes pre.length (splice buf off pre) =
      splice buf off (pre ++ (List.replicate ((bytes - pre.length) / 4) [0x13, 0x00, 0x00, 0x00]).flatten) := by
  rw [makeNopsLoop_eq off bytes bytes pre.length _ (splice_length_le hin) hmod (Nat.sub_le ..), splice_append _ _ hin]

/-- `riscv_make_nops` writes the sequence, as long as was asked for. -/
theorem riscvMakeNopsAt_eq {buf : List Byte} {off : Nat} (bytes : Nat) (hin : off ≤ buf.length) :
    riscvMakeNopsAt buf off bytes = splice buf off (nopSequence bytes) := by
  have hzero : putl 1 0#64 buf off = splice buf off [0x00] := rfl
  have hhalf {b : List Byte} {k : Nat} : putl 2 rvcNop b k = splice b k [0x01, 0x00] := rfl
  unfold riscvMakeNopsAt nopSequence
  rcases Nat.mod_two_eq_zero_or_one bytes with heven | hodd
  · by_cases h2 : bytes % 4 = 2
    · have hafter := @makeNopsLoop_after buf [0x01, 0x00] off bytes hin
        (by simp only [List.length_cons, List.length_nil]; omega)
      have hcount : (bytes - 2) / 4 = bytes / 4 := by omega
      simpa [heven, h2, hhalf, hcount] using hafter
    · have hafter := @makeNopsLoop_after buf [] off bytes hin (by rw [List.length_nil]; omega)
      rw [splice_nil] at hafter
      simpa [heven, h2] using hafter
  · by_cases h2 : (bytes - 1) % 4 = 2
    · have hafter := @makeNopsLoop_after buf [0x00, 0x01, 0x00] off bytes hin
        (by simp only [List.length_cons, List.length_nil]; omega)
      have hcount : (bytes - 3) / 4 = bytes / 4 := by omega
      have hboth : splice (splice buf off [0#8]) (off + 1) [1#8, 0#8] = splice buf off [0#8, 1#8, 0#8] :=
        splice_append [0#8] [1#8, 0#8] hin
      simpa [hodd, h2, hzero, hhalf, hboth, hcount] using hafter
    · have hafter := @makeNopsLoop_after buf [0x00] off bytes hin
        (by simp only [List.length_cons, List.length_nil]; omega)
      have hcount : (bytes - 1) / 4 = bytes / 4 := by omega
      simpa [hodd, h2, hzero, hcount] using hafter

theorem nopSequence_length (bytes : Nat) : (nopSequence bytes).length = bytes := by
  rw [nopSequence, List.length_append, List.length_append, List.length_flatten, List.map_replicate,
    List.sum_replicate]
  simp only [List.length_cons, List.length_nil, smul_eq_mul]
  split <;> split <;> simp only [List.length_cons, List.length_nil] <;> omega

/-- It stays inside. -/
theorem riscvMakeNopsAt_sameOutside {buf : List Byte} {off bytes : Nat} (hin : off + bytes ≤ buf.length) :
    SameOutside off bytes buf (riscvMakeNopsAt buf off bytes) := by
  rw [riscvMakeNopsAt_eq bytes (by omega)]
  exact .splice hin (nopSequence_length bytes).le

/-- The part that is written directly, and the pattern as often as it fits. -/
theorem nopSequence_split (bytes : Nat) :
    nopSequence bytes = nopSequence (bytes % 4) ++ (List.replicate (bytes / 4) (nopSequence 4)).flatten := by
  have hodd : bytes % 4 % 2 = bytes % 2 := by omega
  have hhalf : (bytes % 4 - bytes % 2) % 4 = (bytes - bytes % 2) % 4 := by omega
  have hnone : bytes % 4 / 4 = 0 := by omega
  have hfour : nopSequence 4 = [0x13, 0x00, 0x00, 0x00] := rfl
  rw [hfour, nopSequence, nopSequence, hodd, hhalf, hnone, List.replicate_zero, List.flatten_nil, List.append_nil]

/-- From two bytes on there is a nop in it. -/
theorem nopSequence_eq_zeros (bytes : Nat) : List.replicate bytes 0 = nopSequence bytes ↔ bytes ≤ 1 := by
  constructor
  · intro h
    by_contra hlarge
    have hall : ∀ b ∈ nopSequence bytes, b = 0 := by
      rw [← h]
      exact fun b hb => List.eq_of_mem_replicate hb
    by_cases hhalf : (bytes - bytes % 2) % 4 = 2
    · have hmem : (0x01 : Byte) ∈ nopSequence bytes := by
        rw [nopSequence, if_pos hhalf]
        simp
      exact absurd (hall _ hmem) (by decide)
    · have hmem : (0x13 : Byte) ∈ nopSequence bytes := by
        rw [nopSequence, show bytes / 4 = bytes / 4 - 1 + 1 by omega, List.replicate_succ, List.flatten_cons]
        simp
      exact absurd (hall _ hmem) (by decide)
  · intro h
    rcases Nat.le_one_iff_eq_zero_or_eq_one.mp h with rfl | rfl
    · rfl
    · rfl

/-! ## What is written for a frag -/

section Frag

variable {relax : Bool} {frag : CodeFrag} {bytes n max : Nat} {now : List Byte} {room : Fin 6 → Byte}

/-- The padding of an alignment: nops where it is filled, zeros where it is not. -/
def filling (relax : Bool) (bytes : Nat) : List Byte :=
  if relax = false then nopSequence bytes else List.replicate bytes 0

theorem filling_length (relax : Bool) (bytes : Nat) : (filling relax bytes).length = bytes := by
  unfold filling
  split
  · exact nopSequence_length bytes
  · exact List.length_replicate ..

theorem filling_nops_iff (relax : Bool) (bytes : Nat) :
    filling relax bytes = nopSequence bytes ↔ relax = false ∨ bytes ≤ 1 := by
  cases relax
  · exact iff_of_true rfl (.inl rfl)
  · simpa [filling] using nopSequence_eq_zeros bytes

theorem writeFrag_alignFrag (relax : Bool) (now : List Byte) (n max : Nat) (room : Fin 6 → Byte) (bytes : Nat) :
    writeFrag relax (alignFrag now n max room) bytes = now ++ filling relax bytes := by
  have hzeros : (List.replicate bytes [(0 : Byte)]).flatten = List.replicate bytes 0 := by
    induction bytes with
    | zero => rfl
    | succ k ih => rw [List.replicate_succ, List.flatten_cons, ih, List.replicate_succ, List.singleton_append]
  unfold writeFrag riscvHandleAlignAt filling
  dsimp only [alignFrag]
  by_cases hfill : relax = false ∧ 0 < bytes
  · rw [if_pos hfill, if_pos hfill.1]
    dsimp only
    have hnow : now.length ≤ (now ++ 0 :: List.ofFn room).length := by
      rw [List.length_append]
      exact Nat.le_add_right ..
    have hexcess : (if bytes % 4 ≠ 0 then riscvMakeNopsAt (now ++ 0 :: List.ofFn room) now.length (bytes % 4)
        else now ++ 0 :: List.ofFn room) =
        splice (now ++ 0 :: List.ofFn room) now.length (nopSequence (bytes % 4)) := by
      split
      · exact riscvMakeNopsAt_eq _ hnow
      · rename_i hzero
        rw [not_not.mp hzero]
        exact splice_nil.symm
    have hlen := nopSequence_length (bytes % 4)
    have hpattern := @splice_length_le (now ++ 0 :: List.ofFn room) (nopSequence (bytes % 4)) now.length hnow
    obtain ⟨htake, hslice⟩ := @splice_parts (now ++ 0 :: List.ofFn room) (nopSequence (bytes % 4)) (nopSequence 4)
      now.length hnow
    have happend := @splice_append (now ++ 0 :: List.ofFn room) (nopSequence (bytes % 4))
      (nopSequence 4) now.length hnow
    rw [hlen] at hpattern htake hslice happend
    rw [nopSequence_length] at hslice
    have hcount : (now.length + bytes - (now.length + bytes % 4)) / 4 = bytes / 4 := by omega
    rw [hexcess, riscvMakeNopsAt_eq 4 hpattern, happend, htake, hslice, hcount, List.take_left, List.append_assoc,
      ← nopSequence_split]
  · rw [if_neg hfill]
    dsimp only
    have hslice : slice (now ++ 0 :: List.ofFn room) now.length 1 = [0] := by
      rw [slice, List.drop_left]
      rfl
    rw [List.take_left, hslice, Nat.add_sub_cancel_left, Nat.div_one, hzeros]
    by_cases hrelax : relax = false
    · have hnone : bytes = 0 := by
        rw [not_and] at hfill
        have := hfill hrelax
        omega
      rw [if_pos hrelax, hnone]
      rfl
    · rw [if_neg hrelax]

/-- The frags that the source is read into. -/
def FromSource (frag : CodeFrag) : Prop :=
  frag.type = .rsFill ∨ ∃ now n max room, frag = alignFrag now n max room

/-- The length of a frag is that of its fixed part and its padding. -/
theorem writeFrag_length (relax : Bool) (h : FromSource frag) (address : Nat) :
    (writeFrag relax frag (frag.type.padding address)).length = frag.fix + frag.type.padding address := by
  rcases h with hfill | ⟨now, n, max, room, rfl⟩
  · rw [writeFrag, hfill]
    exact List.length_take_of_le frag.inside
  · rw [writeFrag_alignFrag, List.length_append, filling_length]
    rfl

/-- Where a frag is written. -/
theorem writeFrags_getElem? (relax : Bool) : ∀ (frags : List CodeFrag) (address k : Nat) (frag : CodeFrag),
    (∀ f ∈ frags, FromSource f) → frags[k]? = some frag →
    (writeFrags relax address frags)[k]? = some (writeFrag relax frag
      (frag.type.padding (address + ((writeFrags relax address frags).take k).flatten.length + frag.fix)))
  | [], _, _, _, _, h => absurd h (by simp)
  | first :: frags, address, 0, frag, _, h => by
    obtain rfl : first = frag := by simpa using h
    rfl
  | first :: frags, address, k + 1, frag, hsource, h => by
    have hlen := writeFrag_length relax (hsource first (List.mem_cons_self ..)) (address + first.fix)
    have hrest := writeFrags_getElem? relax frags (address + first.fix + first.type.padding (address + first.fix)) k
      frag (fun f hf => hsource f (List.mem_cons_of_mem _ hf)) (by simpa using h)
    rw [writeFrags, List.getElem?_cons_succ, List.take_succ_cons, List.flatten_cons, List.length_append, hlen, hrest]
    congr 4
    omega

end Frag

/-! ## The whole section -/

section Section

variable {rps : Rps} {s : CodeState}

theorem readStmt_closed (stmt : CodeStmt) : s.closed <+: (readStmt rps s stmt).closed := by
  cases stmt with
  | bytes content => exact List.prefix_rfl
  | option line => exact List.prefix_rfl
  | align n max room =>
    unfold readStmt
    dsimp only
    split
    · exact List.prefix_rfl
    · split
      · exact List.prefix_append ..
      · exact List.prefix_append ..

/-- What has been closed stays. -/
theorem readStmts_closed (prog : List CodeStmt) : s.closed <+: (readStmts rps s prog).closed := by
  induction prog generalizing s with
  | nil => exact List.prefix_rfl
  | cons stmt prog ih => exact (readStmt_closed stmt).trans ih

theorem readStmt_source (h : ∀ f ∈ s.closed, FromSource f) (stmt : CodeStmt) :
    ∀ f ∈ (readStmt rps s stmt).closed, FromSource f := by
  cases stmt with
  | bytes content => exact h
  | option line => exact h
  | align n max room =>
    unfold readStmt
    dsimp only
    split
    · exact h
    · split
      · intro f hf
        rcases List.mem_append.mp hf with hf | hf
        · exact h f hf
        · rw [List.mem_singleton.mp hf]
          exact .inl rfl
      · intro f hf
        rcases List.mem_append.mp hf with hf | hf
        · exact h f hf
        · rw [List.mem_singleton.mp hf]
          exact .inr ⟨_, _, _, _, rfl⟩

theorem readStmts_source (h : ∀ f ∈ s.closed, FromSource f) (prog : List CodeStmt) :
    ∀ f ∈ (readStmts rps s prog).closed, FromSource f := by
  induction prog generalizing s with
  | nil => exact h
  | cons stmt prog ih => exact ih (readStmt_source h stmt)

theorem readStmts_append (s : CodeState) (prog prog' : List CodeStmt) :
    readStmts rps s (prog ++ prog') = readStmts rps (readStmts rps s prog) prog' := List.foldl_append

/-- An alignment that is read without relaxation. -/
theorem readStmt_align (hoff : s.options.opts.relax = false) {n : Nat}
    (hlarge : insnAlignment s.options.opts.rvc < 2 ^ n) (max : Nat) (room : Fin 6 → Byte) :
    readStmt rps s (.align n max room) = { s with closed := s.closed ++ [alignFrag s.now n max room], now := [] } := by
  have hn : n ≠ 0 := by
    rintro rfl
    cases hrvc : s.options.opts.rvc <;> rw [hrvc] at hlarge <;> exact absurd hlarge (by decide)
  unfold readStmt
  dsimp only
  rw [if_neg (by omega), hoff]
  rfl

/-- The option directives of a program. -/
def optionLines (prog : List CodeStmt) : List OptionLine :=
  prog.filterMap fun
    | .option line => some line
    | _ => none

theorem readStmts_options (prog : List CodeStmt) :
    (readStmts rps s prog).options = runOptions rps s.options (optionLines prog) := by
  induction prog generalizing s with
  | nil => rfl
  | cons stmt prog ih =>
    have hrest := ih (s := readStmt rps s stmt)
    cases stmt with
    | bytes content => exact hrest
    | option line => exact hrest
    | align n max room =>
      have hsame : (readStmt rps s (.align n max room)).options = s.options := by
        unfold readStmt
        dsimp only
        split
        · rfl
        · split <;> rfl
      rw [hsame] at hrest
      exact hrest

theorem relaxAlign_spec (address n : Nat) :
    relaxAlign address n < 2 ^ n ∧ (address + relaxAlign address n) % 2 ^ n = 0 := by
  have hpos := Nat.two_pow_pos n
  have hdiv := Nat.div_add_mod (address + (2 ^ n - 1)) (2 ^ n)
  have hmod := Nat.mod_lt (address + (2 ^ n - 1)) hpos
  have hcomm := Nat.mul_comm (2 ^ n) ((address + (2 ^ n - 1)) / 2 ^ n)
  have hsum : address + relaxAlign address n = (address + (2 ^ n - 1)) / 2 ^ n * 2 ^ n := by
    rw [relaxAlign]
    omega
  refine ⟨?_, ?_⟩
  · rw [relaxAlign]
    omega
  · rw [hsum]
    exact Nat.mul_mod_left ..

/-- The length of a padding at `address`: the next multiple is reached, or it is farther away than the directive
allows and there is none. -/
structure PaddingLength (n max address length : Nat) : Prop where
  least : length < 2 ^ n
  ends : (address + length) % 2 ^ n = 0 ∨ (length = 0 ∧ max ≠ 0 ∧ max < relaxAlign address n)

theorem padding_length (n max address : Nat) :
    PaddingLength n max address ((FragType.rsAlignCode n max).padding address) := by
  obtain ⟨hlt, hmod⟩ := relaxAlign_spec address n
  unfold FragType.padding
  dsimp only
  split
  · rename_i hfar
    exact ⟨Nat.two_pow_pos n, .inr ⟨rfl, hfar⟩⟩
  · exact ⟨hlt, .inl hmod⟩

/-- An alignment that is no larger than an instruction is left out. -/
theorem readStmt_dropped {n : Nat} (hsmall : 2 ^ n ≤ insnAlignment s.options.opts.rvc) (max : Nat)
    (room : Fin 6 → Byte) : readStmt rps s (.align n max room) = s := by
  unfold readStmt
  dsimp only
  rw [if_pos (.inr hsmall)]

/-- What has been read for the current frag is in front of what follows. -/
theorem finish_now (rps : Rps) (alignment : Nat) (room : Fin 6 → Byte) (s : CodeState) (prog : List CodeStmt) :
    ∃ frag, ((readStmts rps s prog).finish alignment room)[s.closed.length]? = some frag ∧
      s.now <+: frag.literal.take frag.fix := by
  have hclosed {s' : CodeState} {frag : CodeFrag} (prog : List CodeStmt) (h : s'.closed = s.closed ++ [frag]) :
      ((readStmts rps s' prog).finish alignment room)[s.closed.length]? = some frag := by
    obtain ⟨rest, hrest⟩ := @readStmts_closed rps s' prog
    rw [CodeState.finish, ← hrest, h, List.append_assoc, List.append_assoc,
      List.getElem?_append_right (Nat.le_refl _), Nat.sub_self]
    rfl
  induction prog generalizing s with
  | nil =>
    refine ⟨alignFrag s.now alignment 0 room, ?_, ?_⟩
    · rw [readStmts, List.foldl_nil, CodeState.finish, List.getElem?_append_right (Nat.le_refl _), Nat.sub_self]
      rfl
    · dsimp only [alignFrag]
      rw [List.take_left]
  | cons stmt prog ih =>
    have hread : readStmts rps s (stmt :: prog) = readStmts rps (readStmt rps s stmt) prog := rfl
    rw [hread]
    cases stmt with
    | bytes content =>
      obtain ⟨frag, hfrag, hprefix⟩ := ih { s with now := s.now ++ content } hclosed
      exact ⟨frag, hfrag, (List.prefix_append ..).trans hprefix⟩
    | option line => exact ih { s with options := sRiscvOption rps s.options line } hclosed
    | align n max room' =>
      unfold readStmt
      dsimp only
      split
      · exact ih s hclosed
      · split
        · refine ⟨_, hclosed prog rfl, ?_⟩
          have hnops := @riscvMakeNopsAt_eq s.now s.now.length (worstCaseBytes n s.options.opts.rvc) le_rfl
          dsimp only [relaxedFrag]
          rw [List.take_length, hnops, splice, List.take_length, List.append_assoc]
          exact List.prefix_append ..
        · refine ⟨_, hclosed prog rfl, ?_⟩
          dsimp only [alignFrag]
          rw [List.take_left]

theorem finish_source (rps : Rps) (o : OptionState) (prog : List CodeStmt) (alignment : Nat) (room : Fin 6 → Byte) :
    ∀ f ∈ (readStmts rps { options := o } prog).finish alignment room, FromSource f := by
  intro f hf
  rcases List.mem_append.mp hf with hf | hf
  · exact readStmts_source (fun f hf => absurd hf List.not_mem_nil) _ f hf
  · rcases List.mem_cons.mp hf with rfl | hf
    · exact .inr ⟨_, _, _, _, rfl⟩
    · rw [List.mem_singleton.mp hf]
      exact .inl rfl

/-- The fixed part of a frag is written first. -/
theorem take_prefix_writeFrag (relax : Bool) {frag : CodeFrag} (h : FromSource frag) (bytes : Nat) :
    frag.literal.take frag.fix <+: writeFrag relax frag bytes := by
  rcases h with hfill | ⟨now, n, max, room, rfl⟩
  · rw [writeFrag, hfill]
  · rw [writeFrag_alignFrag]
    dsimp only [alignFrag]
    rw [List.take_left]
    exact List.prefix_append ..

end Section

/-! ## Alignments -/

/-- What stands at `address` is the padding of an alignment: nops, up to the aligned address. -/
structure Filled (n max address : Nat) (pad : List Byte) : Prop where
  length : PaddingLength n max address pad.length
  nops : pad = nopSequence pad.length

/-- An alignment that is left out, since it is no larger than an instruction, has nothing to pad; any other one is
filled at the end of the file, or has no more than a byte to fill. -/
def FillSafe (rvc relaxAtEnd : Bool) (n max address : Nat) : Prop :=
  if 2 ^ n ≤ insnAlignment rvc then address % 2 ^ n = 0 ∨ (max ≠ 0 ∧ max < relaxAlign address n)
  else relaxAtEnd = false ∨ (FragType.rsAlignCode n max).padding address ≤ 1

/-- The output around an alignment: what it is padded with is between what was read before it and the rest. -/
structure AlignOutput (rps : Rps) (o : OptionState) (pre post : List CodeStmt) (n max alignment : Nat)
    (room room' : Fin 6 → Byte) (address : Nat) (pad rest : List Byte) : Prop where
  written : (writeSection rps { options := o } (pre ++ .align n max room :: post) alignment room')[
    (readStmts rps { options := o } pre).closed.length]? = some ((readStmts rps { options := o } pre).now ++ pad ++ rest)
  position : address = ((writeSection rps { options := o } (pre ++ .align n max room :: post) alignment room').take
    (readStmts rps { options := o } pre).closed.length).flatten.length + (readStmts rps { options := o } pre).now.length
  /-- What is left out is as if it had not been written, -/
  dropped : 2 ^ n ≤ insnAlignment (readStmts rps { options := o } pre).options.opts.rvc →
    pad = [] ∧ writeSection rps { options := o } (pre ++ .align n max room :: post) alignment room' =
      writeSection rps { options := o } (pre ++ post) alignment room'
  /-- and anything else ends its frag. -/
  padded : insnAlignment (readStmts rps { options := o } pre).options.opts.rvc < 2 ^ n →
    rest = [] ∧ pad.length = (FragType.rsAlignCode n max).padding address

/-- An alignment that is read without relaxation is padded up to the aligned address with a sequence of nops exactly
when relaxation is still off at the end of the file, or there is no more than a byte to fill; one that is left out
must be at an aligned address.  `riscv_make_nops` itself writes nothing else than it is asked for. -/
theorem alignCode_filled_iff (rps : Rps) (o : OptionState) (pre post : List CodeStmt) (n max alignment : Nat)
    (room room' : Fin 6 → Byte) (hoff : (readStmts rps { options := o } pre).options.opts.relax = false) :
    (∀ (buf : List Byte) (off bytes : Nat), off + bytes ≤ buf.length →
      SameOutside off bytes buf (riscvMakeNopsAt buf off bytes)) ∧
    ∃ address pad rest, AlignOutput rps o pre post n max alignment room room' address pad rest ∧
      (Filled n max address pad ↔ FillSafe (readStmts rps { options := o } pre).options.opts.rvc
        (runOptions rps (readStmts rps { options := o } pre).options (optionLines post)).opts.relax n max address) := by
  refine ⟨fun buf off bytes hin => riscvMakeNopsAt_sameOutside hin, ?_⟩
  have hsource := finish_source rps o (pre ++ .align n max room :: post) alignment room'
  generalize hbefore : readStmts rps { options := o } pre = before at hoff
  have hread : readStmts rps { options := o } (pre ++ .align n max room :: post) =
      readStmts rps (readStmt rps before (.align n max room)) post := by
    rw [readStmts_append, hbefore]
    rfl
  rcases Nat.lt_or_ge (insnAlignment before.options.opts.rvc) (2 ^ n) with hlarge | hsmall
  · have hall := hread.trans (congrArg (readStmts rps · post) (readStmt_align hoff hlarge max room))
    have hfrag : ((readStmts rps { options := o } (pre ++ .align n max room :: post)).finish alignment room')[
        before.closed.length]? = some (alignFrag before.now n max room) := by
      obtain ⟨rest, hrest⟩ := @readStmts_closed rps
        { before with closed := before.closed ++ [alignFrag before.now n max room], now := [] } post
      rw [CodeState.finish, hall, ← hrest, List.append_assoc, List.append_assoc,
        List.getElem?_append_right (Nat.le_refl _), Nat.sub_self]
      rfl
    have hend : (readStmts rps { options := o } (pre ++ .align n max room :: post)).options =
        runOptions rps before.options (optionLines post) := by
      rw [hall, readStmts_options]
    have hwritten := writeFrags_getElem? (runOptions rps before.options
      (optionLines post)).opts.relax _ 0 _ _ hsource hfrag
    rw [Nat.zero_add, writeFrag_alignFrag, ← hend] at hwritten
    change (writeSection rps { options := o } (pre ++ .align n max room :: post) alignment room')[
      before.closed.length]? = some (before.now ++ filling _ ((FragType.rsAlignCode n max).padding (
        ((writeSection rps { options := o } (pre ++ .align n max room :: post) alignment room').take
          before.closed.length).flatten.length + before.now.length))) at hwritten
    refine ⟨_, filling (readStmts rps { options := o } (pre ++ .align n max room :: post)).options.opts.relax
      ((FragType.rsAlignCode n max).padding _), [], ⟨?_, rfl, ?_, fun _ => ⟨rfl, filling_length ..⟩⟩, ?_⟩
    · rw [hbefore, List.append_nil]
      exact hwritten
    · intro hsmall
      rw [hbefore] at hsmall
      omega
    · rw [hbefore, FillSafe, if_neg (by omega), ← hend, ← filling_nops_iff]
      constructor
      · intro hfilled
        have hnops := hfilled.nops
        rw [filling_length] at hnops
        exact hnops
      · intro hnops
        refine ⟨?_, ?_⟩
        · rw [filling_length]
          exact padding_length n max _
        · rw [filling_length]
          exact hnops
  · have hall := hread.trans (congrArg (readStmts rps · post) (readStmt_dropped hsmall max room))
    have hsame : readStmts rps { options := o } (pre ++ .align n max room :: post) =
        readStmts rps { options := o } (pre ++ post) := by
      rw [hall, readStmts_append, hbefore]
    obtain ⟨frag, hfrag, hprefix⟩ := finish_now rps alignment room' before post
    rw [← hall] at hfrag
    have hwritten := writeFrags_getElem? (readStmts rps { options := o }
      (pre ++ .align n max room :: post)).options.opts.relax _ 0 _ _ hsource hfrag
    obtain ⟨rest, hrest⟩ := hprefix.trans (take_prefix_writeFrag (readStmts rps { options := o }
      (pre ++ .align n max room :: post)).options.opts.relax (hsource frag (List.mem_of_getElem? hfrag)) _)
    rw [← hrest] at hwritten
    refine ⟨_, [], rest, ⟨?_, rfl, fun _ => ⟨rfl, ?_⟩, ?_⟩, ?_⟩
    · rw [hbefore, List.append_nil]
      exact hwritten
    · unfold writeSection
      rw [hsame]
    · intro hlarge
      rw [hbefore] at hlarge
      omega
    · rw [hbefore, FillSafe, if_pos hsmall]
      constructor
      · rintro ⟨hlength, -⟩
        exact hlength.ends.imp id fun h => h.2
      · intro hsafe
        refine ⟨⟨Nat.two_pow_pos n, hsafe.imp id fun h => ⟨rfl, h⟩⟩, rfl⟩

/-! ## An option too late -/

def fillRps : Rps := ⟨some .c20191213, true⟩

def noRoom : Fin 6 → Byte := fun _ => 0

def fillStart : OptionState := {}

/-- `.option norelax; nop; .align 3; .option relax`. -/
def fillBefore : List CodeStmt := [.option ⟨"norelax".toList, none⟩, .bytes [0x13, 0x00, 0x00, 0x00]]

def fillAfter : List CodeStmt := [.option ⟨"relax".toList, none⟩]

theorem fillSample_iff :
    (∀ (buf : List Byte) (off bytes : Nat), off + bytes ≤ buf.length →
      SameOutside off bytes buf (riscvMakeNopsAt buf off bytes)) ∧
    ∃ address pad rest,
      AlignOutput fillRps fillStart fillBefore fillAfter 3 0 3 noRoom noRoom address pad rest ∧
      (Filled 3 0 address pad ↔
        FillSafe (readStmts fillRps { options := fillStart } fillBefore).options.opts.rvc
          (runOptions fillRps (readStmts fillRps { options := fillStart } fillBefore).options
            (optionLines fillAfter)).opts.relax 3 0 address) :=
  alignCode_filled_iff fillRps fillStart fillBefore fillAfter 3 0 3 noRoom noRoom (by decide)

/-- The padding is read without relaxation and left unfilled, since relaxation is on at the end. -/
theorem fillSample_zeros :
    (readStmts fillRps { options := fillStart } fillBefore).options.opts.relax = false ∧
      writeSection fillRps { options := fillStart } (fillBefore ++ .align 3 0 noRoom :: fillAfter) 3 noRoom =
        [[0x13, 0x00, 0x00, 0x00, 0x00, 0x00, 0x00, 0x00], [], []] ∧
      nopSequence 4 = [0x13, 0x00, 0x00, 0x00] := by
  refine ⟨by decide, by decide, rfl⟩

end RiscvBinutils.Gas
