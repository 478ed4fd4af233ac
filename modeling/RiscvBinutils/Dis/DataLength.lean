/-
Data in the disassembler (opcodes/riscv-dis.c, `riscv_data_length` and `riscv_disassemble_data`): one, two or four
bytes are dumped at once, which end at the latest where the next mapping symbol stands or where the section ends.
Only one of the two bounds is looked at, and the symbol only behind the one that was found last.
-/
import RiscvBinutils.Dis.Mapping

namespace RiscvBinutils.Dis

open RiscvBinutils.Base RiscvBinutils.Opcode

/-! ## The text -/

/-- `%0<width>x`. -/
def hexPadded (width n : Nat) : List Char :=
  List.replicate (width - (Nat.toDigits 16 n).length) '0' ++ Nat.toDigits 16 n

/-- `riscv_disassemble_data`: the text, and the number of bytes that is returned; `none` is `abort`. -/
def riscvDisassembleData (bytesPerChunk : Nat) (data : BitVec 64) : Option (List Char × Nat) :=
  match bytesPerChunk with
  | 1 => some (".byte\t0x".toList ++ hexPadded 2 (data.setWidth 32).toNat, 1)
  | 2 => some (".short\t0x".toList ++ hexPadded 4 (data.setWidth 32).toNat, 2)
  | 4 => some (".word\t0x".toList ++ hexPadded 8 data.toNat, 4)
  | 8 => some (".dword\t0x".toList ++ hexPadded 16 data.toNat, 8)
  | _ => none

/-! ## The region -/

/-- An address of the section. -/
def Section.Has (sec : Section) (memaddr : BitVec 64) : Prop := sec.vma ≤ memaddr ∧ memaddr - sec.vma < sec.size

/-- The bytes from the address to the end of the section. -/
def Section.rest (sec : Section) (memaddr : BitVec 64) : Nat := sec.size.toNat - (memaddr - sec.vma).toNat

/-- The bytes from the address on cross neither a mapping symbol of the section nor its end. -/
structure StaysInside (table : Symtab) (sec : Section) (memaddr length : BitVec 64) : Prop where
  symbols : ∀ sym ∈ mappingSymbols table (some sec), memaddr < sym.value →
    memaddr.toNat + length.toNat ≤ sym.value.toNat
  atEnd : (memaddr - sec.vma).toNat + length.toNat ≤ sec.size.toNat

/-- The bytes up to a mapping symbol behind the address, if there is one, or up to the end of the section. -/
def distance (sec : Section) (memaddr : BitVec 64) : Option Symbol → Nat
  | some sym => sym.value.toNat - memaddr.toNat
  | none => sec.rest memaddr

/-- The bytes up to the next mapping symbol or the end of the section, whichever is nearer. -/
def room (table : Symtab) (sec : Section) (call : Call) : Nat :=
  min (distance sec call.memaddr (mappingSymbolAfter table call)) (sec.rest call.memaddr)

/-- The mapping symbol that is looked at: the first one behind the address, of those behind the one that was found
last. -/
def symbolAhead (table : Symtab) (lastMapSymbol : Int) (call : Call) : Option Symbol :=
  if table.elf = true ∧ 0 ≤ lastMapSymbol then
    (table.symbols.drop (lastMapSymbol + 1).toNat).find? fun sym =>
      decide (call.memaddr < sym.value) && riscvIsValidMappingSymbol call.sec sym
  else none

/-- There is room for four bytes, or the room is what is measured: up to the symbol that is looked at, or else up to
the end of the section.  Of three bytes only two are dumped. -/
def Measured (table : Symtab) (sec : Section) (lastMapSymbol : Int) (call : Call) : Prop :=
  let measured := distance sec call.memaddr (symbolAhead table lastMapSymbol call)
  4 ≤ room table sec call ∨ measured = room table sec call ∨ (room table sec call = 2 ∧ measured = 3)

section Region

variable {table : Symtab} {sec : Section} {call : Call}

theorem Section.Has.rest_pos (h : sec.Has call.memaddr) : 1 ≤ sec.rest call.memaddr := by
  have hlt := h.2
  unfold Section.rest
  bv_omega

theorem Section.Has.offset (h : sec.Has call.memaddr) :
    (sec.vma + sec.size - call.memaddr).toNat = sec.rest call.memaddr := by
  have hlt := h.2
  unfold Section.rest
  bv_omega

/-- The symbols are sorted, so the first one is the nearest. -/
theorem mappingSymbolAfter_le {sym : Symbol} (hmem : sym ∈ mappingSymbols table call.sec)
    (hafter : call.memaddr < sym.value) :
    ∃ next, mappingSymbolAfter table call = some next ∧ next.value ≤ sym.value := by
  have hsorted : (mappingSymbols table call.sec).Pairwise fun sym sym' => sym.value ≤ sym'.value := by
    unfold mappingSymbols
    split
    · exact table.sorted.filter _
    · exact .nil
  unfold mappingSymbolAfter
  cases hfind : (mappingSymbols table call.sec).find? fun sym => decide (call.memaddr < sym.value) with
  | none =>
    have hno := List.find?_eq_none.mp hfind sym hmem
    exact absurd (decide_eq_true hafter) hno
  | some next =>
    obtain ⟨-, before, behind, heq, hbefore⟩ := List.find?_eq_some_iff_append.mp hfind
    refine ⟨next, rfl, ?_⟩
    rw [heq] at hmem hsorted
    rcases List.mem_append.mp hmem with hin | hin
    · have hno := hbefore sym hin
      rw [decide_eq_true hafter] at hno
      cases hno
    · rcases List.mem_cons.mp hin with rfl | hin
      · exact BitVec.le_refl _
      · exact (List.pairwise_cons.mp (List.pairwise_append.mp hsorted).2.1).1 sym hin

theorem mappingSymbolAfter_spec {next : Symbol} (h : mappingSymbolAfter table call = some next) :
    next ∈ mappingSymbols table call.sec ∧ call.memaddr < next.value := by
  unfold mappingSymbolAfter at h
  have hpred := List.find?_some h
  exact ⟨List.mem_of_find?_eq_some h, of_decide_eq_true hpred⟩

theorem symbolAhead_spec {lastMapSymbol : Int} {sym : Symbol} (h : symbolAhead table lastMapSymbol call = some sym) :
    sym ∈ mappingSymbols table call.sec ∧ call.memaddr < sym.value := by
  unfold symbolAhead at h
  split at h
  · rename_i hcond
    have hpred := List.find?_some h
    rw [Bool.and_eq_true, decide_eq_true_eq] at hpred
    refine ⟨?_, hpred.1⟩
    unfold mappingSymbols
    rw [if_pos hcond.1]
    exact List.mem_filter.mpr ⟨List.mem_of_mem_drop (List.mem_of_find?_eq_some h), hpred.2⟩
  · cases h

/-- What is measured is at least the room. -/
theorem room_le_measured (lastMapSymbol : Int) :
    room table sec call ≤ distance sec call.memaddr (symbolAhead table lastMapSymbol call) := by
  unfold room
  cases hahead : symbolAhead table lastMapSymbol call with
  | none => exact Nat.min_le_right _ _
  | some sym =>
    obtain ⟨hmem, hafter⟩ := symbolAhead_spec hahead
    obtain ⟨next, hnext, hle⟩ := mappingSymbolAfter_le hmem hafter
    rw [hnext]
    refine le_trans (Nat.min_le_left _ _) ?_
    have hnat : next.value.toNat ≤ sym.value.toNat := hle
    show next.value.toNat - call.memaddr.toNat ≤ sym.value.toNat - call.memaddr.toNat
    omega

theorem room_pos (h : sec.Has call.memaddr) : 1 ≤ room table sec call := by
  unfold room
  refine le_min ?_ h.rest_pos
  cases hnext : mappingSymbolAfter table call with
  | none => exact h.rest_pos
  | some next =>
    have hlt : call.memaddr.toNat < next.value.toNat := (mappingSymbolAfter_spec hnext).2
    show 1 ≤ next.value.toNat - call.memaddr.toNat
    omega

theorem staysInside_iff (hsec : call.sec = some sec) (h : sec.Has call.memaddr) (length : BitVec 64) :
    StaysInside table sec call.memaddr length ↔ length.toNat ≤ room table sec call := by
  have hrest : (call.memaddr - sec.vma).toNat < sec.size.toNat := h.2
  have hend : (call.memaddr - sec.vma).toNat + length.toNat ≤ sec.size.toNat ↔
      length.toNat ≤ sec.rest call.memaddr := by
    unfold Section.rest
    omega
  unfold room
  rw [le_min_iff]
  constructor
  · rintro ⟨hsymbols, hsize⟩
    refine ⟨?_, hend.mp hsize⟩
    cases hnext : mappingSymbolAfter table call with
    | none => exact hend.mp hsize
    | some next =>
      obtain ⟨hmem, hafter⟩ := mappingSymbolAfter_spec hnext
      rw [hsec] at hmem
      have hbound := hsymbols next hmem hafter
      show length.toNat ≤ next.value.toNat - call.memaddr.toNat
      omega
  · rintro ⟨hsymbol, hsize⟩
    refine ⟨fun sym hmem hafter => ?_, hend.mpr hsize⟩
    rw [← hsec] at hmem
    obtain ⟨next, hnext, hle⟩ := mappingSymbolAfter_le hmem hafter
    rw [hnext] at hsymbol
    have hbound : length.toNat ≤ next.value.toNat - call.memaddr.toNat := hsymbol
    have hnat : next.value.toNat ≤ sym.value.toNat := hle
    have hlt : call.memaddr.toNat < next.value.toNat := (mappingSymbolAfter_spec hnext).2
    omega

end Region

/-! ## The length -/

section Length

variable {σ : Type} {parse : List Char → σ} {table : Symtab} {s s' : DisState σ} {call : Call} {sec : Section}

/-- Up to four bytes, and of three only two. -/
def cut (measured : Nat) : Nat := if min 4 measured = 3 then 2 else min 4 measured

theorem cut_toNat {x : BitVec 64} {n : Nat} (h : x.toNat = n) :
    (if (if x < 4 then x else 4) = 3 then 2 else if x < 4 then x else 4 : BitVec 64).toNat = cut n := by
  subst h
  unfold cut
  by_cases hlt : x < 4
  · rw [if_pos hlt, Nat.min_eq_right (by bv_omega)]
    by_cases hthree : x = 3
    · subst hthree
      rfl
    · rw [if_neg hthree, if_neg (by bv_omega)]
  · rw [if_neg hlt, if_neg (by decide), Nat.min_eq_left (by bv_omega)]
    rfl

/-- It is one, two or four. -/
theorem cut_cases {measured : Nat} (h : 1 ≤ measured) : cut measured = 1 ∨ cut measured = 2 ∨ cut measured = 4 := by
  unfold cut
  split <;> omega

/-- When the bytes that are cut from more than there is room for fit all the same. -/
theorem cut_le_iff {measured room : Nat} (hpos : 1 ≤ room) (hle : room ≤ measured) :
    cut measured ≤ room ↔ 4 ≤ room ∨ measured = room ∨ (room = 2 ∧ measured = 3) := by
  unfold cut
  split <;> omega

/-- What is looked at, in the words of the code. -/
theorem symbolAhead_eq (table : Symtab) (lastMapSymbol : Int) (call : Call) :
    (if table.symbols ≠ [] ∧ table.elf = true ∧ 0 ≤ lastMapSymbol then
      (table.symbols.drop (lastMapSymbol + 1).toNat).find? fun sym =>
        decide (call.memaddr < sym.value) && riscvIsValidMappingSymbol call.sec sym
    else none) = symbolAhead table lastMapSymbol call := by
  unfold symbolAhead
  by_cases hempty : table.symbols = []
  · rw [hempty, if_neg (fun h => h.1 rfl), List.drop_nil, List.find?_nil, ite_self]
  · simp only [ne_eq, hempty, not_false_eq_true, true_and]

/-- The length is cut from what is measured. -/
theorem riscvDataLength_eq (hsec : call.sec = some sec) (h : sec.Has call.memaddr) :
    ∃ size subsets, riscvDataLength parse table s call = some (size, subsets) ∧
      size.toNat = cut (distance sec call.memaddr (symbolAhead table s.lastMapSymbol call)) := by
  unfold riscvDataLength
  dsimp only
  rw [symbolAhead_eq]
  cases hahead : symbolAhead table s.lastMapSymbol call with
  | some sym =>
    have hlt := (symbolAhead_spec hahead).2
    exact ⟨_, _, rfl, cut_toNat (by show _ = sym.value.toNat - call.memaddr.toNat; bv_omega)⟩
  | none =>
    rw [hsec]
    exact ⟨_, _, rfl, cut_toNat h.offset⟩

/-- What the caller gets: one, two or four bytes are printed, and `abort` is not reached. -/
structure Dumped (parse : List Char → σ) (table : Symtab) (s s' : DisState σ) (call : Call) (size : BitVec 64) :
    Prop where
  length : ∃ subsets, riscvDataLength parse table s' call = some (size, subsets)
  sizes : size = 1 ∨ size = 2 ∨ size = 4
  noAbort : ∀ data, ∃ text, riscvDisassembleData size.toNat data = some (text, size.toNat)
  printed : ∃ t out, printInsnRiscv parse table s call = some (t, out) ∧
    (out = .memoryError ∨ ∃ packet, out = .data size packet)

/-- After a search that has found the symbol of the address, the next mapping symbol is looked at. -/
theorem symbolAhead_of_searched (hsearched : Searched table call s)
    (hknown : (mappingSymbolAt table call).isSome ∨ mappingSymbolAfter table call = none) :
    symbolAhead table s.lastMapSymbol call = mappingSymbolAfter table call := by
  unfold symbolAhead
  cases hat : mappingSymbolAt table call with
  | none =>
    have hneg : ¬ 0 ≤ s.lastMapSymbol := by
      intro hnonneg
      obtain ⟨sym, -, hsome⟩ := hsearched.found s.lastMapSymbol.toNat (Int.toNat_of_nonneg hnonneg).symm
      rw [hat] at hsome
      cases hsome
    rw [if_neg fun h => hneg h.2]
    rw [hat] at hknown
    exact (hknown.resolve_left (by simp)).symm
  | some sym =>
    have hnonneg : 0 ≤ s.lastMapSymbol := by
      by_contra hneg
      rw [hsearched.missing (not_le.mp hneg)] at hat
      cases hat
    have helf : table.elf = true := by
      by_contra hno
      rw [mappingSymbolAt_none (.inr (Bool.not_eq_true _ ▸ hno))] at hat
      cases hat
    obtain ⟨sym', hsym', hat'⟩ := hsearched.found s.lastMapSymbol.toNat (Int.toNat_of_nonneg hnonneg).symm
    rw [if_pos ⟨helf, hnonneg⟩, show (s.lastMapSymbol + 1).toNat = s.lastMapSymbol.toNat + 1 by omega]
    exact find_ahead helf hsym' (mappingSymbolAt_valid hat').2

/-- Data is dumped in pieces of one, two or four bytes from every state that the disassembler keeps, and they stay
inside the region exactly when what is measured is the room, or there is room for four. -/
theorem dataLength_inside_iff (hsec : call.sec = some sec) (haddr : sec.Has call.memaddr)
    (hflag : call.disassembleData = false)
    (hsearch : riscvSearchMappingSymbol parse table s call = some (.mapData, s')) :
    ∃ size, Dumped parse table s s' call size ∧
      (StaysInside table sec call.memaddr size ↔ Measured table sec s'.lastMapSymbol call) := by
  obtain ⟨size, subsets, hlength, hsize⟩ := @riscvDataLength_eq σ parse table s' call sec hsec haddr
  have hle := @room_le_measured table sec call s'.lastMapSymbol
  have hpos : 1 ≤ room table sec call := room_pos haddr
  have hcut := cut_cases (le_trans hpos hle)
  rw [← hsize] at hcut
  have hsizes : size = 1 ∨ size = 2 ∨ size = 4 := by
    rcases hcut with hone | htwo | hfour
    · exact .inl (BitVec.eq_of_toNat_eq hone)
    · exact .inr (.inl (BitVec.eq_of_toNat_eq htwo))
    · exact .inr (.inr (BitVec.eq_of_toNat_eq hfour))
  refine ⟨size, ⟨⟨subsets, hlength⟩, hsizes, fun data => ?_, ?_⟩, ?_⟩
  · rcases hsizes with rfl | rfl | rfl
    · exact ⟨_, rfl⟩
    · exact ⟨_, rfl⟩
    · exact ⟨_, rfl⟩
  · have hlength' : riscvDataLength parse table { s' with lastMapState := .mapData } call = some (size, subsets) :=
      hlength
    unfold printInsnRiscv
    rw [hsearch, Option.bind_eq_bind, Option.bind_some]
    dsimp only
    rw [if_pos ⟨rfl, hflag⟩, hlength', Option.bind_eq_bind, Option.bind_some]
    dsimp only
    cases call.readMemory call.memaddr size.toNat with
    | none => exact ⟨_, _, rfl, .inl rfl⟩
    | some packet => exact ⟨_, _, rfl, .inr ⟨packet, rfl⟩⟩
  · rw [staysInside_iff hsec haddr, hsize]
    exact cut_le_iff hpos hle

/-- In a run whose kept values are not seen, data stays inside where the mapping symbols of the section are not behind
its end, and the data begins with one of them or no other follows. -/
theorem Run.data_inside {init : σ} {calls : List Call} (hrun : Run parse table init calls s)
    (hmeets : Meets table calls s call) (hsec : call.sec = some sec) (haddr : sec.Has call.memaddr)
    (hdata : DumpsData table call)
    (hknown : (mappingSymbolAt table call).isSome ∨ mappingSymbolAfter table call = none)
    (hend : ∀ sym ∈ mappingSymbols table (some sec), sym.value.toNat ≤ sec.vma.toNat + sec.size.toNat) :
    ∃ s' size subsets, riscvSearchMappingSymbol parse table s call = some (.mapData, s') ∧
      riscvDataLength parse table s' call = some (size, subsets) ∧ StaysInside table sec call.memaddr size := by
  obtain ⟨s', hsearch, -, hsearched, -⟩ := search_spec hrun.invariant.1 hmeets.promised hmeets.fits
  rw [hdata.1] at hsearch
  obtain ⟨size, subsets, hlength, hsize⟩ := @riscvDataLength_eq σ parse table s' call sec hsec haddr
  refine ⟨s', size, subsets, hsearch, hlength, ?_⟩
  have hpos : 1 ≤ room table sec call := room_pos haddr
  rw [staysInside_iff hsec haddr, hsize]
  refine (cut_le_iff hpos (room_le_measured s'.lastMapSymbol)).mpr (.inr (.inl ?_))
  rw [symbolAhead_of_searched hsearched hknown]
  unfold room
  cases hnext : mappingSymbolAfter table call with
  | none => exact (Nat.min_self _).symm
  | some next =>
    obtain ⟨hmem, hafter⟩ := mappingSymbolAfter_spec hnext
    rw [hsec] at hmem
    have hbound := hend next hmem
    have hvma : sec.vma.toNat ≤ call.memaddr.toNat := haddr.1
    have hoffset : (call.memaddr - sec.vma).toNat = call.memaddr.toNat - sec.vma.toNat :=
      BitVec.toNat_sub_of_le haddr.1
    refine (Nat.min_eq_left ?_).symm
    show next.value.toNat - call.memaddr.toNat ≤ sec.rest call.memaddr
    unfold Section.rest
    omega

end Length

/-- The data at 4 of the section above. -/
theorem textCall_data : ∃ s' size, Dumped id textTable afterInsn s' (textCall 4) size ∧
    (StaysInside textTable textSection 4 size ↔ Measured textTable textSection s'.lastMapSymbol (textCall 4)) :=
  ⟨_, dataLength_inside_iff rfl ⟨by decide, by decide⟩ rfl rfl⟩

/-! ## Across a symbol, and across the end -/

/-- Eight bytes of data, and two of them. -/
def dataSection : Section := ⟨2, 0, 8, false⟩

def shortSection : Section := ⟨2, 0, 2, false⟩

/-- Instructions at 2, and no symbol in front of the data. -/
def insnTable : Symtab where
  symbols := [⟨"$x".toList, dataSection, 2, by decide⟩]
  elf := true
  sorted := by decide

/-- A symbol behind the end of the section. -/
def behindTable : Symtab where
  symbols := [⟨"$d".toList, shortSection, 0, by decide⟩, ⟨"$x".toList, shortSection, 4, by decide⟩]
  elf := true
  sorted := by decide

def firstCall (sec : Section) : Call := { textCall 0 with sec := some sec }

/-- Four bytes are dumped in front of an instruction at 2, and of a section of two bytes. -/
theorem data_crosses :
    (∃ s' subsets, riscvSearchMappingSymbol id insnTable { subsets := [] } (firstCall dataSection) = some (.mapData, s') ∧
      riscvDataLength id insnTable s' (firstCall dataSection) = some (4, subsets) ∧
      ¬ StaysInside insnTable dataSection 0 4) ∧
    ∃ s' subsets, riscvSearchMappingSymbol id behindTable { subsets := [] } (firstCall shortSection) =
        some (.mapData, s') ∧
      riscvDataLength id behindTable s' (firstCall shortSection) = some (4, subsets) ∧
      ¬ StaysInside behindTable shortSection 0 4 := by
  refine ⟨⟨_, _, rfl, rfl, fun h => ?_⟩, _, _, rfl, rfl, fun h => ?_⟩
  · have hmem : ⟨"$x".toList, dataSection, 2, by decide⟩ ∈ mappingSymbols insnTable (some dataSection) :=
      List.mem_filter.mpr ⟨List.mem_singleton.mpr rfl, by decide⟩
    exact absurd (h.symbols _ hmem (by decide)) (by decide)
  · exact absurd h.atEnd (by decide)

end RiscvBinutils.Dis
