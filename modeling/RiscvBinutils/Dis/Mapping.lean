/-
The mapping symbols in the disassembler (opcodes/riscv-dis.c): `riscv_search_mapping_symbol` with
the values that it keeps from one call to the next, `riscv_data_length`, and `print_insn_riscv`.
When the kept values answer for an address as a search that begins anew does.
-/
import RiscvBinutils.Base.Bytes
import RiscvBinutils.Base.Search
import RiscvBinutils.Opcode.Length
import RiscvBinutils.Opcode.Mapping

namespace RiscvBinutils.Dis

open RiscvBinutils.Base RiscvBinutils.Opcode

/-! ## What the disassembler is given -/

/-- An `asection`; two sections are the same if their numbers are. -/
structure Section where
  id : Nat
  vma : BitVec 64
  size : BitVec 64
  /-- `flags & SEC_CODE`. -/
  code : Bool
  deriving DecidableEq, Repr

/-- An `asymbol`; `value` is its `bfd_asymbol_value`, which is not before its section. -/
structure Symbol where
  name : List Char
  sec : Section
  value : BitVec 64
  inSection : sec.vma ≤ value

/-- `info->symtab`, sorted by the values. -/
structure Symtab where
  symbols : List Symbol
  /-- Of `bfd_target_elf_flavour`. -/
  elf : Bool
  sorted : symbols.Pairwise fun sym sym' => sym.value ≤ sym'.value

/-- A call of `print_insn_riscv`: the address, and what is read of `disassemble_info`. -/
structure Call where
  memaddr : BitVec 64
  sec : Option Section
  symtabPos : Int
  stopOffset : BitVec 64
  /-- `flags & DISASSEMBLE_DATA`. -/
  disassembleData : Bool
  /-- `read_memory_func`; `none` is a status that is not zero. -/
  readMemory : BitVec 64 → Nat → Option (List (BitVec 8))

/-- The values that are kept from one call to the next. -/
structure DisState (σ : Type) where
  lastMapSymbol : Int := -1
  lastStopOffset : BitVec 64 := 0
  lastMapSymbolBoundary : BitVec 64 := 0
  lastMapState : MapState := .mapNone
  lastMapSection : Option Section := none
  /-- `riscv_subsets`. -/
  subsets : σ

/-! ## The search -/

/-- The architecture of `$xrv…`; what is behind a point is not a part of it. -/
def archText (name : List Char) : List Char := (name.takeWhile (· ≠ '.')).drop 2

/-- The symbol is in the section, if there is one. -/
def sameSection (sec : Option Section) (sym : Symbol) : Bool := sec = none || sec = some sym.sec

def riscvIsValidMappingSymbol (sec : Option Section) (sym : Symbol) : Bool :=
  sameSection sec sym && riscvElfIsMappingSymbols sym.name

/-- The default, where there is no mapping symbol. -/
def defaultState : Option Section → MapState
  | none => .mapInsn
  | some sec => if sec.code then .mapInsn else .mapData

/-- The end of the section, which is read from a section that is there. -/
def sectionEnd (sec : Option Section) : Option (BitVec 64) := sec.map fun sec => sec.vma + sec.size

/-- The name begins with `$x` or `$d`. -/
def beginsMapping : List Char → Bool
  | '$' :: c :: _ => c = 'x' || c = 'd'
  | _ => false

section Search

variable {σ : Type} (parse : List Char → σ)

/-- `riscv_update_map_state`; `parse` is `riscv_parse_subset` on an empty list. -/
def riscvUpdateMapState (sec : Option Section) (sym : Symbol) (state : MapState) (subsets : σ) : MapState × σ :=
  if sameSection sec sym = false then (state, subsets)
  else if sym.name = insnName then (.mapInsn, subsets)
  else if sym.name = dataName then (.mapData, subsets)
  else if isArchName sym.name then (.mapInsn, parse (archText sym.name))
  else (state, subsets)

/-- The index of the symbol that is found: forwards from where the last search stopped, then backwards, but not past
the start of the section. -/
def findMappingSymbol (symbols : List Symbol) (call : Call) (lastMapSymbol : Int) (fromLast : Bool) : Option Nat :=
  let start := if fromLast ∧ lastMapSymbol ≤ call.symtabPos + 1 then lastMapSymbol else call.symtabPos + 1
  let back := if fromLast ∧ lastMapSymbol ≤ call.symtabPos then lastMapSymbol else call.symtabPos
  let vma := (call.sec.map Section.vma).getD 0
  (scanForward (call.memaddr < ·.value) (riscvIsValidMappingSymbol call.sec) (symbols.drop start.toNat)
      start.toNat none).or
    (scanBackward (·.value < vma) (riscvIsValidMappingSymbol call.sec) symbols (back + 1).toNat)

/-- Where the range of the symbol at `n` ends; `none` if the section is read and there is none. -/
def symbolBoundary (symbols : List Symbol) (sec : Option Section) (n : Nat) (sym : Symbol) : Option (BitVec 64) :=
  match (symbols.drop (n + 1)).find? fun next => next.sec = sym.sec && beginsMapping next.name with
  | some next => some next.value
  | none => sectionEnd sec

/-- `riscv_search_mapping_symbol`; `none` if a section is read that is not there. -/
def riscvSearchMappingSymbol (table : Symtab) (s : DisState σ) (call : Call) : Option (MapState × DisState σ) :=
  if s.lastMapSection = call.sec ∧ call.memaddr < s.lastMapSymbolBoundary then some (s.lastMapState, s)
  else if table.symbols = [] ∨ table.elf = false then
    some (defaultState call.sec, { s with lastMapSection := call.sec })
  else
    let lastMapSymbol := if call.memaddr ≤ 0 then -1 else s.lastMapSymbol
    let fromLast := decide (0 ≤ lastMapSymbol ∧ call.stopOffset = s.lastStopOffset)
    match findMappingSymbol table.symbols call lastMapSymbol fromLast with
    | none =>
      some (defaultState call.sec,
        { s with lastMapSection := call.sec, lastMapSymbol := -1, lastStopOffset := call.stopOffset })
    | some n => do
      let sym ← table.symbols[n]?
      let (mstate, subsets) := riscvUpdateMapState parse call.sec sym (defaultState call.sec) s.subsets
      let boundary ← symbolBoundary table.symbols call.sec n sym
      some (mstate,
        { s with lastMapSection := call.sec, lastMapSymbol := n, lastStopOffset := call.stopOffset,
                 lastMapSymbolBoundary := boundary, subsets })

/-! ## Printing -/

/-- `riscv_data_length`: the length, and the list after the symbol that was looked at. -/
def riscvDataLength (table : Symtab) (s : DisState σ) (call : Call) : Option (BitVec 64 × σ) :=
  let next :=
    if table.symbols ≠ [] ∧ table.elf = true ∧ 0 ≤ s.lastMapSymbol then
      (table.symbols.drop (s.lastMapSymbol + 1).toNat).find? fun sym =>
        decide (call.memaddr < sym.value) && riscvIsValidMappingSymbol call.sec sym
    else none
  let even (length : BitVec 64) : BitVec 64 := if length = 3 then 2 else length
  match next with
  | some sym =>
    let length := if sym.value - call.memaddr < 4 then sym.value - call.memaddr else 4
    some (even length, (riscvUpdateMapState parse call.sec sym .mapNone s.subsets).2)
  | none => do
    let offset := (← sectionEnd call.sec) - call.memaddr
    some (even (if offset < 4 then offset else 4), s.subsets)

/-- What is printed, with what it is read from. -/
inductive Printed (σ : Type)
  | memoryError
  | data (size : BitVec 64) (packet : List (BitVec 8))
  /-- `riscv_disassemble_insn` asks `subsets` for the extensions. -/
  | insn (subsets : σ) (packet : List (BitVec 8))

/-- `print_insn_riscv`. -/
def printInsnRiscv (table : Symtab) (s : DisState σ) (call : Call) : Option (DisState σ × Printed σ) := do
  let (mstate, s) ← riscvSearchMappingSymbol parse table s call
  let s := { s with lastMapState := mstate }
  if mstate = .mapData ∧ call.disassembleData = false then
    let (size, subsets) ← riscvDataLength parse table s call
    let s := { s with subsets }
    match call.readMemory call.memaddr size.toNat with
    | none => some (s, .memoryError)
    | some packet => some (s, .data size packet)
  else
    match call.readMemory call.memaddr 2 with
    | none => some (s, .memoryError)
    | some halfword =>
      match call.readMemory call.memaddr (riscvInsnLength (getl 2 halfword 0)) with
      | none => some (s, .memoryError)
      | some packet => some (s, .insn s.subsets packet)

end Search

/-! ## What a search that begins anew finds -/

/-- The mapping symbols of a section. -/
def mappingSymbols (table : Symtab) (sec : Option Section) : List Symbol :=
  if table.elf then table.symbols.filter (riscvIsValidMappingSymbol sec) else []

/-- The last mapping symbol of the section at or before the address. -/
def mappingSymbolAt (table : Symtab) (call : Call) : Option Symbol :=
  ((mappingSymbols table call.sec).filter fun sym => decide (sym.value ≤ call.memaddr)).getLast?

/-- The first one behind the address. -/
def mappingSymbolAfter (table : Symtab) (call : Call) : Option Symbol :=
  (mappingSymbols table call.sec).find? fun sym => decide (call.memaddr < sym.value)

/-- The state of the address. -/
def mappingState (table : Symtab) (call : Call) : MapState :=
  match mappingSymbolAt table call with
  | none => defaultState call.sec
  | some sym => stateOfName sym.name

/-- The symbol of the address is `$xrv…`. -/
def FindsArch (table : Symtab) (call : Call) : Prop :=
  ∃ sym, mappingSymbolAt table call = some sym ∧ isArchName sym.name

instance (table : Symtab) (call : Call) : Decidable (FindsArch table call) :=
  decidable_of_iff ((mappingSymbolAt table call).any fun sym => isArchName sym.name) (by
    unfold FindsArch
    cases mappingSymbolAt table call <;> simp)

/-- The address is dumped as data. -/
def DumpsData (table : Symtab) (call : Call) : Prop :=
  mappingState table call = .mapData ∧ call.disassembleData = false

instance (table : Symtab) (call : Call) : Decidable (DumpsData table call) :=
  inferInstanceAs (Decidable (_ ∧ _))

section Spec

variable {σ : Type} (parse : List Char → σ)

/-- The list after the symbol of the address. -/
def searchedSubsets (table : Symtab) (subsets : σ) (call : Call) : σ :=
  match mappingSymbolAt table call with
  | none => subsets
  | some sym => if isArchName sym.name then parse (archText sym.name) else subsets

/-- The list after the last `$xrv…` that the calls find. -/
def subsetsAfter (table : Symtab) (subsets : σ) (calls : List Call) : σ :=
  calls.foldl (searchedSubsets parse table) subsets

/-- `riscv_data_length` reads a `$xrv…` that is ahead. -/
def ReadsArchAhead (table : Symtab) (call : Call) : Prop :=
  DumpsData table call ∧ (mappingSymbolAt table call).isSome ∧
    ∃ sym, mappingSymbolAfter table call = some sym ∧ isArchName sym.name

instance (table : Symtab) (call : Call) : Decidable (ReadsArchAhead table call) :=
  decidable_of_iff (DumpsData table call ∧ (mappingSymbolAt table call).isSome ∧
      (mappingSymbolAfter table call).any fun sym => isArchName sym.name) (by
    unfold ReadsArchAhead
    cases mappingSymbolAfter table call <;> simp)

/-- A `$xrv…` was read ahead, and no call has found one since. -/
def archAhead (table : Symtab) (calls : List Call) : Bool :=
  calls.foldl (fun ahead call => !decide (FindsArch table call) && (ahead || decide (ReadsArchAhead table call))) false

theorem subsetsAfter_snoc (table : Symtab) (subsets : σ) (calls : List Call) (call : Call) :
    subsetsAfter parse table subsets (calls ++ [call]) =
      searchedSubsets parse table (subsetsAfter parse table subsets calls) call := by
  rw [subsetsAfter, List.foldl_append]
  rfl

theorem archAhead_snoc (table : Symtab) (calls : List Call) (call : Call) :
    archAhead table (calls ++ [call]) =
      (!decide (FindsArch table call) && (archAhead table calls || decide (ReadsArchAhead table call))) := by
  rw [archAhead, List.foldl_append]
  rfl

theorem searchedSubsets_arch {table : Symtab} {call : Call} {sym : Symbol} (hat : mappingSymbolAt table call = some sym)
    (harch : isArchName sym.name = true) (subsets : σ) :
    searchedSubsets parse table subsets call = parse (archText sym.name) := by
  rw [searchedSubsets, hat]
  exact if_pos harch

end Spec

/-! ## The loops find it -/

/-- What the callers promise: the position is that of a symbol at or before the address, or there is none; with
symbols there is a section. -/
structure Promised (table : Symtab) (call : Call) : Prop where
  position : call.symtabPos = -1 ∨
    ∃ (n : Nat) (sym : Symbol), call.symtabPos = n ∧ table.symbols[n]? = some sym ∧ sym.value ≤ call.memaddr
  given : call.sec = none → table.symbols = [] ∨ table.elf = false

section Find

variable {table : Symtab} {call : Call}

theorem Symtab.value_le (table : Symtab) {m m' : Nat} {sym sym' : Symbol} (hle : m ≤ m')
    (h : table.symbols[m]? = some sym) (h' : table.symbols[m']? = some sym') : sym.value ≤ sym'.value := by
  obtain ⟨hm, rfl⟩ := List.getElem?_eq_some_iff.mp h
  obtain ⟨hm', rfl⟩ := List.getElem?_eq_some_iff.mp h'
  rcases Nat.eq_or_lt_of_le hle with rfl | hlt
  · exact BitVec.le_refl _
  · exact List.pairwise_iff_getElem.mp table.sorted m m' hm hm' hlt

theorem valid_sec {sec : Section} {sym : Symbol} (h : riscvIsValidMappingSymbol (some sec) sym = true) :
    sym.sec = sec := by
  unfold riscvIsValidMappingSymbol sameSection at h
  simp only [Bool.and_eq_true, Bool.or_eq_true, decide_eq_true_eq, reduceCtorEq, false_or, Option.some.injEq] at h
  exact h.1.symm

/-- The property of the symbols that the search is for. -/
def AtOrBefore (call : Call) (sym : Symbol) : Prop :=
  riscvIsValidMappingSymbol call.sec sym = true ∧ sym.value ≤ call.memaddr

instance (call : Call) : DecidablePred (AtOrBefore call) := fun _ => inferInstanceAs (Decidable (_ ∧ _))

theorem findMappingSymbol_last (hpromised : Promised table call) {lastMapSymbol : Int} {fromLast : Bool}
    (hlast : fromLast = true → 0 ≤ lastMapSymbol) :
    LastIndex (AtOrBefore call) table.symbols (findMappingSymbol table.symbols call lastMapSymbol fromLast) := by
  -- everything up to the position is at or before the address
  have hbefore (m : Nat) (sym : Symbol) (hm : (m : Int) ≤ call.symtabPos) (hsym : table.symbols[m]? = some sym) :
      sym.value ≤ call.memaddr := by
    rcases hpromised.position with hnone | ⟨n, sym', hn, hsym', hvalue⟩
    · omega
    · exact BitVec.le_trans (table.value_le (by omega) hsym hsym') hvalue
  have hrange : -1 ≤ call.symtabPos ∧ call.symtabPos < table.symbols.length := by
    rcases hpromised.position with hnone | ⟨n, sym', hn, hsym', -⟩
    · omega
    · have hlt := (List.getElem?_eq_some_iff.mp hsym').1
      omega
  have hforward : StopsForGood (fun sym => decide (call.memaddr < sym.value)) table.symbols := by
    intro m m' sym sym' hle hsym hsym' hstop
    have hlt : call.memaddr < sym.value := of_decide_eq_true hstop
    have hmono := table.value_le hle hsym hsym'
    exact decide_eq_true (by bv_omega)
  have hback : StopsBack (fun sym => decide (sym.value < (call.sec.map Section.vma).getD 0))
      (riscvIsValidMappingSymbol call.sec) table.symbols := by
    intro m m' sym sym' hle hsym hsym' hstop
    have hlt := of_decide_eq_true hstop
    by_contra hvalid
    rw [Bool.not_eq_false] at hvalid
    cases hsec : call.sec with
    | none =>
      rw [hsec] at hlt
      exact absurd hlt (BitVec.not_lt_zero)
    | some sec =>
      rw [hsec] at hlt hvalid
      have hvma : sec.vma ≤ sym.value := (valid_sec hvalid) ▸ sym.inSection
      have hmono := table.value_le hle hsym hsym'
      rw [Option.map_some, Option.getD_some] at hlt
      bv_omega
  have hstops (sym : Symbol) : decide (call.memaddr < sym.value) = false ↔ sym.value ≤ call.memaddr := by
    rw [decide_eq_false_iff_not, BitVec.not_lt]
  have hscan (start back : Nat) (hle : start ≤ back) (hpos : (back : Int) ≤ call.symtabPos + 1) :=
    scan_lastIndex hforward hback hle (by omega) (fun m sym hm hsym =>
      (hstops sym).mpr (hbefore m sym (by omega) hsym))
  simp only [hstops] at hscan
  unfold findMappingSymbol
  cases fromLast with
  | false =>
    simp only [Bool.false_eq_true, false_and, if_false]
    exact hscan _ _ (Nat.le_refl _) (by omega)
  | true =>
    have hnonneg := hlast rfl
    simp only [true_and]
    apply hscan
    · split <;> split <;> omega
    · split <;> omega

theorem mappingSymbolAt_lastIndex (helf : table.elf = true) {r : Option Nat}
    (h : LastIndex (AtOrBefore call) table.symbols r) : mappingSymbolAt table call = r.bind (table.symbols[·]?) := by
  rw [← h.getLast?_filter, mappingSymbolAt, mappingSymbols, if_pos helf, List.filter_filter]
  congr 2
  funext sym
  rw [Bool.eq_iff_iff, Bool.and_eq_true, decide_eq_true_eq, decide_eq_true_eq, and_comm]
  rfl

theorem mappingSymbolAt_none (h : table.symbols = [] ∨ table.elf = false) : mappingSymbolAt table call = none := by
  unfold mappingSymbolAt mappingSymbols
  rcases h with h | h
  · rw [h]
    cases table.elf <;> rfl
  · rw [h]
    rfl

theorem mappingSymbolAt_valid {sym : Symbol} (h : mappingSymbolAt table call = some sym) :
    riscvIsValidMappingSymbol call.sec sym = true ∧ sym.value ≤ call.memaddr := by
  have hmem := List.mem_of_getLast? h
  rw [List.mem_filter, decide_eq_true_eq] at hmem
  refine ⟨?_, hmem.2⟩
  have hmapping := hmem.1
  unfold mappingSymbols at hmapping
  split at hmapping
  · exact (List.mem_filter.mp hmapping).2
  · cases hmapping

end Find

/-! ## What the kept values say -/

section Cache

variable {σ : Type} {parse : List Char → σ} {table : Symtab} {s : DisState σ} {call : Call}

/-- The kept values belong to the symbol that was found last: no mapping symbol of the section is between it and the
boundary. If none was found, the state is the default, and the boundary is an old one. -/
structure Coherent (parse : List Char → σ) (table : Symtab) (s : DisState σ) : Prop where
  found : ∀ n : Nat, s.lastMapSymbol = n → ∃ sym, table.elf = true ∧ table.symbols[n]? = some sym ∧
    riscvIsValidMappingSymbol s.lastMapSection sym = true ∧ s.lastMapState = stateOfName sym.name ∧
    (isArchName sym.name = true → s.subsets = parse (archText sym.name)) ∧
    ∀ (m : Nat) (sym' : Symbol), n < m → table.symbols[m]? = some sym' →
      riscvIsValidMappingSymbol s.lastMapSection sym' = true → s.lastMapSymbolBoundary ≤ sym'.value
  missing : s.lastMapSymbol < 0 → s.lastMapSymbolBoundary ≠ 0 → s.lastMapState = defaultState s.lastMapSection

/-- If the kept values answer, the address is not before the symbol that was found last; if none was found, the
section has still no mapping symbol at or before the address. -/
structure CacheFits (table : Symtab) (s : DisState σ) (call : Call) : Prop where
  found : s.lastMapSection = call.sec → call.memaddr < s.lastMapSymbolBoundary → ∀ (n : Nat) (sym : Symbol),
    s.lastMapSymbol = n → table.symbols[n]? = some sym → sym.value ≤ call.memaddr
  missing : s.lastMapSection = call.sec → call.memaddr < s.lastMapSymbolBoundary → s.lastMapSymbol < 0 →
    mappingSymbolAt table call = none

/-- What is kept after a search is the symbol of the address. -/
structure Searched (table : Symtab) (call : Call) (s : DisState σ) : Prop where
  found : ∀ n : Nat, s.lastMapSymbol = n → ∃ sym, table.symbols[n]? = some sym ∧ mappingSymbolAt table call = some sym
  missing : s.lastMapSymbol < 0 → mappingSymbolAt table call = none

theorem mappingState_some {sym : Symbol} (h : mappingSymbolAt table call = some sym) :
    mappingState table call = stateOfName sym.name := by
  rw [mappingState, h]

theorem mappingState_none (h : mappingSymbolAt table call = none) :
    mappingState table call = defaultState call.sec := by
  rw [mappingState, h]

/-- The answer of the kept values. -/
theorem search_cached (hc : Coherent parse table s) (hfits : CacheFits table s call)
    (hsec : s.lastMapSection = call.sec)
    (hlt : call.memaddr < s.lastMapSymbolBoundary) :
    s.lastMapState = mappingState table call ∧ s.subsets = searchedSubsets parse table s.subsets call ∧
      Searched table call s := by
  by_cases hneg : s.lastMapSymbol < 0
  · have hnone := hfits.missing hsec hlt hneg
    refine ⟨?_, ?_, ⟨fun n hn => by omega, fun _ => hnone⟩⟩
    · rw [mappingState_none hnone, ← hsec]
      apply hc.missing hneg
      rintro hzero
      rw [hzero] at hlt
      exact BitVec.not_lt_zero hlt
    · rw [searchedSubsets, hnone]
  · obtain ⟨n, hn⟩ : ∃ n : Nat, s.lastMapSymbol = n := ⟨s.lastMapSymbol.toNat, by omega⟩
    obtain ⟨sym, helf, hsym, hvalid, hstate, harch, hafter⟩ := hc.found n hn
    have hat : mappingSymbolAt table call = some sym := by
      rw [hsec] at hvalid hafter
      have hlast : LastIndex (AtOrBefore call) table.symbols (some n) := by
        refine ⟨⟨sym, hsym, hvalid, hfits.found hsec hlt n sym hn hsym⟩, ?_⟩
        rintro m sym' hm hsym' ⟨hvalid', hle⟩
        have hboundary := hafter m sym' hm hsym' hvalid'
        bv_omega
      rw [mappingSymbolAt_lastIndex helf hlast, Option.bind_some, hsym]
    refine ⟨hstate.trans (mappingState_some hat).symm, ?_, ⟨?_, fun h => absurd h hneg⟩⟩
    · rw [searchedSubsets, hat]
      dsimp only
      split
      · rename_i h
        exact harch h
      · rfl
    · intro n' hn'
      obtain rfl : n = n' := by omega
      exact ⟨sym, hsym, hat⟩

/-- The boundary is not behind a later mapping symbol of the section. -/
theorem symbolBoundary_le {n : Nat} {sym : Symbol} {sec : Section} {boundary : BitVec 64}
    (hsec : sym.sec = sec) (h : symbolBoundary table.symbols (some sec) n sym = some boundary) {m : Nat} {sym' : Symbol}
    (hlt : n < m) (hsym' : table.symbols[m]? = some sym') (hvalid : riscvIsValidMappingSymbol (some sec) sym' = true) :
    boundary ≤ sym'.value := by
  have hnext : (next : Symbol) → next = sym' → (decide (next.sec = sym.sec) && beginsMapping next.name) = true := by
    rintro next rfl
    obtain ⟨c, rest, hname, hc⟩ := mapping_head (Bool.and_eq_true _ _ ▸ hvalid).2
    rw [Bool.and_eq_true, decide_eq_true_eq, hsec, valid_sec hvalid, hname]
    refine ⟨rfl, ?_⟩
    rcases hc with rfl | rfl <;> rfl
  have hdrop : (table.symbols.drop (n + 1))[m - (n + 1)]? = some sym' := by
    rw [List.getElem?_drop, show n + 1 + (m - (n + 1)) = m by omega]
    exact hsym'
  unfold symbolBoundary at h
  split at h
  · rename_i next hfind
    cases h
    obtain ⟨-, i, hi, rfl, hbefore⟩ := List.find?_eq_some_iff_getElem.mp hfind
    -- the symbol that is found is not behind the other
    have hle : i ≤ m - (n + 1) := by
      by_contra hgt
      obtain ⟨hm, hget⟩ := List.getElem?_eq_some_iff.mp hdrop
      have hno := hbefore (m - (n + 1)) (by omega)
      rw [hnext _ hget] at hno
      cases hno
    have hi' : table.symbols[n + 1 + i]? = some ((table.symbols.drop (n + 1))[i]) := by
      rw [← List.getElem?_drop]
      exact List.getElem?_eq_getElem hi
    exact table.value_le (by omega) hi' hsym'
  · rename_i hfind
    have hno := List.find?_eq_none.mp hfind sym' (List.mem_of_getElem? hdrop)
    exact absurd (hnext sym' rfl) hno

theorem riscvUpdateMapState_valid {sec : Option Section} {sym : Symbol} (h : riscvIsValidMappingSymbol sec sym = true)
    (state : MapState) (subsets : σ) :
    riscvUpdateMapState parse sec sym state subsets =
      (stateOfName sym.name, if isArchName sym.name then parse (archText sym.name) else subsets) := by
  unfold riscvIsValidMappingSymbol at h
  rw [Bool.and_eq_true] at h
  obtain ⟨hsec, hname⟩ := h
  unfold riscvUpdateMapState
  rw [if_neg (by simp [hsec])]
  unfold riscvElfIsMappingSymbols at hname
  rw [Bool.or_eq_true, Bool.or_eq_true, decide_eq_true_eq, decide_eq_true_eq] at hname
  rcases hname with (hname | hname) | harch
  · rw [hname]
    rfl
  · rw [hname]
    rfl
  · rw [if_neg (isArchName_ne harch).2, if_neg (isArchName_ne harch).1, if_pos harch, if_pos harch,
      stateOfName_arch harch]

/-- A search finds the symbol of the address, if the kept values fit when they answer. -/
theorem search_spec (hc : Coherent parse table s) (hpromised : Promised table call) (hfits : CacheFits table s call) :
    ∃ s', riscvSearchMappingSymbol parse table s call = some (mappingState table call, s') ∧
      s'.subsets = searchedSubsets parse table s.subsets call ∧ Searched table call s' ∧
      Coherent parse table { s' with lastMapState := mappingState table call } := by
  unfold riscvSearchMappingSymbol
  by_cases hcache : s.lastMapSection = call.sec ∧ call.memaddr < s.lastMapSymbolBoundary
  · obtain ⟨hstate, hsubsets, hsearched⟩ := search_cached hc hfits hcache.1 hcache.2
    rw [if_pos hcache]
    refine ⟨s, by rw [hstate], hsubsets, hsearched, ?_⟩
    rw [← hstate]
    exact hc
  · rw [if_neg hcache]
    by_cases hempty : table.symbols = [] ∨ table.elf = false
    · have hnone := @mappingSymbolAt_none table call hempty
      have hneg (n : Nat) (hn : s.lastMapSymbol = n) : False := by
        obtain ⟨sym, helf, hsym, -⟩ := hc.found n hn
        rcases hempty with h | h
        · rw [h] at hsym
          cases hsym
        · rw [h] at helf
          cases helf
      rw [if_pos hempty, mappingState_none hnone]
      refine ⟨_, rfl, ?_, ⟨fun n hn => (hneg n hn).elim, fun _ => hnone⟩,
        ⟨fun n hn => (hneg n hn).elim, fun _ _ => rfl⟩⟩
      rw [searchedSubsets, hnone]
    · rw [if_neg hempty]
      dsimp only
      obtain ⟨-, helf⟩ := not_or.mp hempty
      rw [Bool.not_eq_false] at helf
      generalize hlms : (if call.memaddr ≤ 0 then (-1 : Int) else s.lastMapSymbol) = lastMapSymbol
      have hlast := @findMappingSymbol_last table call hpromised lastMapSymbol
        (decide (0 ≤ lastMapSymbol ∧ call.stopOffset = s.lastStopOffset)) (fun h => (of_decide_eq_true h).1)
      have hat := mappingSymbolAt_lastIndex helf hlast
      cases hfind : findMappingSymbol table.symbols call lastMapSymbol
        (decide (0 ≤ lastMapSymbol ∧ call.stopOffset = s.lastStopOffset)) with
      | none =>
        rw [hfind, Option.bind_none] at hat
        rw [mappingState_none hat]
        refine ⟨_, rfl, ?_, ⟨fun n hn => by simp only at hn; omega, fun _ => hat⟩,
          ⟨fun n hn => by simp only at hn; omega, fun _ _ => rfl⟩⟩
        rw [searchedSubsets, hat]
      | some n =>
        rw [hfind] at hlast hat
        obtain ⟨⟨sym, hsym, hvalid, -⟩, -⟩ := hlast
        rw [Option.bind_some, hsym] at hat
        obtain ⟨sec, hsec⟩ : ∃ sec, call.sec = some sec := by
          cases h : call.sec with
          | none => exact absurd (hpromised.given h) hempty
          | some sec => exact ⟨sec, rfl⟩
        obtain ⟨boundary, hboundary⟩ : ∃ boundary, symbolBoundary table.symbols call.sec n sym = some boundary := by
          rw [hsec]
          unfold symbolBoundary
          split
          · exact ⟨_, rfl⟩
          · exact ⟨_, rfl⟩
        dsimp only
        rw [hsym, Option.bind_eq_bind, Option.bind_some, riscvUpdateMapState_valid hvalid]
        dsimp only
        rw [hboundary, Option.bind_eq_bind, Option.bind_some, mappingState_some hat]
        refine ⟨_, rfl, ?_, ⟨?_, ?_⟩, ⟨?_, ?_⟩⟩
        · rw [searchedSubsets, hat]
        · intro n' hn'
          obtain rfl : n = n' := by simpa using hn'
          exact ⟨sym, hsym, hat⟩
        · intro hneg
          simp only at hneg
          omega
        · intro n' hn'
          obtain rfl : n = n' := by simpa using hn'
          refine ⟨sym, helf, hsym, hvalid, rfl, fun harch => if_pos harch, ?_⟩
          intro m sym' hlt hsym' hvalid'
          rw [hsec] at hboundary hvalid
          rw [hsec] at hvalid'
          exact symbolBoundary_le (valid_sec hvalid) hboundary hlt hsym' hvalid'
        · intro hneg
          simp only at hneg
          omega

/-- What `riscv_data_length` looks at is the first mapping symbol behind the address. -/
theorem find_ahead (helf : table.elf = true) {n : Nat} {sym : Symbol} (hsym : table.symbols[n]? = some sym)
    (hle : sym.value ≤ call.memaddr) :
    ((table.symbols.drop (n + 1)).find? fun sym =>
        decide (call.memaddr < sym.value) && riscvIsValidMappingSymbol call.sec sym) =
      mappingSymbolAfter table call := by
  have htake : ((table.symbols.take (n + 1)).find? fun sym => decide
      (riscvIsValidMappingSymbol call.sec sym = true ∧ decide (call.memaddr < sym.value) = true)) = none := by
    rw [List.find?_eq_none]
    intro sym' hmem
    obtain ⟨i, hi⟩ := List.mem_iff_getElem?.mp hmem
    rw [List.getElem?_take] at hi
    split at hi
    · rename_i hlt
      have hvalue := table.value_le (Nat.lt_succ_iff.mp hlt) hi hsym
      have hno : ¬ call.memaddr < sym'.value := by bv_omega
      simp [hno]
    · cases hi
  rw [mappingSymbolAfter, mappingSymbols, if_pos helf, List.find?_filter]
  conv_rhs => rw [← List.take_append_drop (n + 1) table.symbols, List.find?_append, htake, Option.none_or]
  congr 1
  funext sym'
  simp only [Bool.decide_and, Bool.decide_eq_true, Bool.and_comm]

/-- The list is only changed by an architecture ahead. -/
theorem riscvDataLength_spec (hsearched : Searched table call s) {sec : Section}
    (hsec : call.sec = some sec) :
    ∃ size subsets, riscvDataLength parse table s call = some (size, subsets) ∧
      (subsets = s.subsets ∨ ((mappingSymbolAt table call).isSome ∧
        ∃ sym, mappingSymbolAfter table call = some sym ∧ isArchName sym.name)) := by
  unfold riscvDataLength
  dsimp only
  split
  · rename_i sym hnext
    refine ⟨_, _, rfl, ?_⟩
    split at hnext
    · rename_i hsome
      obtain ⟨n, hn⟩ : ∃ n : Nat, s.lastMapSymbol = n := ⟨s.lastMapSymbol.toNat, by omega⟩
      obtain ⟨sym', hsym', hat⟩ := hsearched.found n hn
      have hvalid : riscvIsValidMappingSymbol call.sec sym = true := by
        have hpred := List.find?_some hnext
        rw [Bool.and_eq_true] at hpred
        exact hpred.2
      rw [show (s.lastMapSymbol + 1).toNat = n + 1 by omega,
        find_ahead hsome.2.1 hsym' (mappingSymbolAt_valid hat).2] at hnext
      rw [riscvUpdateMapState_valid hvalid]
      dsimp only
      split
      · rename_i harch
        exact .inr ⟨by rw [hat]; rfl, sym, hnext, harch⟩
      · exact .inl rfl
    · cases hnext
  · rw [hsec]
    exact ⟨_, _, rfl, .inl rfl⟩

/-- One call: the state of the address, and the list that its symbol leaves. -/
theorem printInsnRiscv_spec (hc : Coherent parse table s) (hpromised : Promised table call)
    (hfits : CacheFits table s call) :
    ∃ s' out, printInsnRiscv parse table s call = some (s', out) ∧ s'.lastMapState = mappingState table call ∧
      Coherent parse table s' ∧
      (∀ subsets packet, out = .insn subsets packet →
        ¬ DumpsData table call ∧ subsets = searchedSubsets parse table s.subsets call) ∧
      (s'.subsets = searchedSubsets parse table s.subsets call ∨ ReadsArchAhead table call) := by
  obtain ⟨s', hsearch, hsubsets, hsearched, hc'⟩ := search_spec hc hpromised hfits
  unfold printInsnRiscv
  rw [hsearch, Option.bind_eq_bind, Option.bind_some]
  dsimp only
  by_cases hdata : mappingState table call = .mapData ∧ call.disassembleData = false
  · rw [if_pos hdata]
    obtain ⟨sec, hsec⟩ : ∃ sec, call.sec = some sec := by
      cases h : call.sec with
      | none =>
        have hstate := mappingState_none (@mappingSymbolAt_none table call (hpromised.given h))
        rw [hdata.1, h] at hstate
        cases hstate
      | some sec => exact ⟨sec, rfl⟩
    have hsearched' : Searched table call { s' with lastMapState := mappingState table call } :=
      ⟨hsearched.found, hsearched.missing⟩
    obtain ⟨size, subsets, hlength, hahead⟩ := @riscvDataLength_spec σ parse table _ call hsearched' sec hsec
    rw [hlength, Option.bind_eq_bind, Option.bind_some]
    dsimp only
    -- the symbol is no architecture, since the state is data
    have hcoherent : Coherent parse table { s' with lastMapState := mappingState table call, subsets } := by
      refine ⟨?_, hc'.missing⟩
      intro n hn
      obtain ⟨sym, helf, hsym, hvalid, hstate, -, hafter⟩ := hc'.found n hn
      refine ⟨sym, helf, hsym, hvalid, hstate, ?_, hafter⟩
      intro harch
      have hinsn : mappingState table call = stateOfName sym.name := hstate
      rw [hdata.1, stateOfName_arch harch] at hinsn
      cases hinsn
    have hlist : subsets = searchedSubsets parse table s.subsets call ∨ ReadsArchAhead table call := by
      rcases hahead with hsame | hahead
      · exact .inl (hsame.trans hsubsets)
      · exact .inr ⟨hdata, hahead⟩
    cases call.readMemory call.memaddr size.toNat with
    | none => exact ⟨_, _, rfl, rfl, hcoherent, (fun _ _ h => by cases h), hlist⟩
    | some packet => exact ⟨_, _, rfl, rfl, hcoherent, (fun _ _ h => by cases h), hlist⟩
  · rw [if_neg hdata]
    cases call.readMemory call.memaddr 2 with
    | none => exact ⟨_, _, rfl, rfl, hc', (fun _ _ h => by cases h), .inl hsubsets⟩
    | some halfword =>
      dsimp only
      cases call.readMemory call.memaddr (riscvInsnLength (getl 2 halfword 0)) with
      | none => exact ⟨_, _, rfl, rfl, hc', (fun _ _ h => by cases h), .inl hsubsets⟩
      | some packet =>
        refine ⟨_, _, rfl, rfl, hc', ?_, .inl hsubsets⟩
        intro subsets packet' hout
        cases hout
        exact ⟨hdata, hsubsets⟩

end Cache

/-! ## Runs -/

section Run

variable {σ : Type} (parse : List Char → σ) (table : Symtab) (init : σ)

/-- A call that the kept values do not mislead: they fit when they answer, and an instruction is not decoded with an
architecture that was read ahead. -/
structure Meets (calls : List Call) (s : DisState σ) (call : Call) : Prop where
  promised : Promised table call
  fits : CacheFits table s call
  ahead : archAhead table calls = true → ¬ DumpsData table call → FindsArch table call

/-- The states after the calls, each of which meets the condition. -/
inductive Run : List Call → DisState σ → Prop
  | start : Run [] { subsets := init }
  | step {calls : List Call} {s s' : DisState σ} {call : Call} {out : Printed σ} (hrun : Run calls s)
    (hmeets : Meets table calls s call) (hprint : printInsnRiscv parse table s call = some (s', out)) :
    Run (calls ++ [call]) s'

/-- The call gives what a search gives for which nothing was kept: the state of the last mapping symbol of the section
at or before the address, and the list of the last `$xrv…` that was found. -/
structure Transparent (calls : List Call) (call : Call) (s' : DisState σ) (out : Printed σ) : Prop where
  state : s'.lastMapState = mappingState table call
  subsets : ∀ subsets packet, out = .insn subsets packet → subsets = subsetsAfter parse table init (calls ++ [call])
  fresh : ∃ fresh, riscvSearchMappingSymbol parse table { subsets := subsetsAfter parse table init calls } call =
    some (s'.lastMapState, fresh) ∧ fresh.subsets = subsetsAfter parse table init (calls ++ [call])

variable {parse table init}

/-- Without kept values. -/
theorem search_fresh {call : Call} (hpromised : Promised table call) (subsets : σ) :
    ∃ fresh, riscvSearchMappingSymbol parse table { subsets } call = some (mappingState table call, fresh) ∧
      fresh.subsets = searchedSubsets parse table subsets call := by
  have hc : Coherent parse table { subsets } := ⟨fun n hn => by simp only at hn; omega, fun _ h => absurd rfl h⟩
  have hfits : CacheFits table ({ subsets } : DisState σ) call :=
    ⟨fun _ h => absurd h BitVec.not_lt_zero, fun _ h => absurd h BitVec.not_lt_zero⟩
  obtain ⟨s', hsearch, hsubsets, -⟩ := search_spec hc hpromised hfits
  exact ⟨s', hsearch, hsubsets⟩

/-- What every run keeps. -/
theorem Run.invariant {calls : List Call} {s : DisState σ} (hrun : Run parse table init calls s) :
    Coherent parse table s ∧ (archAhead table calls = false → s.subsets = subsetsAfter parse table init calls) := by
  induction hrun with
  | start => exact ⟨⟨fun n hn => by simp only at hn; omega, fun _ h => absurd rfl h⟩, fun _ => rfl⟩
  | @step calls s s' call out hrun hmeets hprint ih =>
    obtain ⟨hc, hsubsets⟩ := ih
    obtain ⟨s'', out', hprint', -, hc', -, hlist⟩ := printInsnRiscv_spec hc hmeets.promised hmeets.fits
    obtain ⟨rfl, -⟩ : s'' = s' ∧ out' = out := by
      rw [hprint] at hprint'
      exact ⟨(congrArg Prod.fst (Option.some.inj hprint')).symm, (congrArg Prod.snd (Option.some.inj hprint')).symm⟩
    refine ⟨hc', ?_⟩
    intro hahead
    rw [archAhead_snoc, Bool.and_eq_false_iff] at hahead
    rw [subsetsAfter_snoc]
    by_cases harch : FindsArch table call
    · obtain ⟨sym, hat, hname⟩ := harch
      have hnot : ¬ ReadsArchAhead table call := by
        rintro ⟨⟨hstate, -⟩, -⟩
        rw [mappingState_some hat, stateOfName_arch hname] at hstate
        cases hstate
      rw [hlist.resolve_right hnot, searchedSubsets_arch parse hat hname, searchedSubsets_arch parse hat hname]
    · have hclear : archAhead table calls = false ∧ ¬ ReadsArchAhead table call := by
        simpa [harch] using hahead
      rw [hlist.resolve_right hclear.2, hsubsets hclear.1]

/-- In a run whose calls meet the condition, the kept values are not seen. -/
theorem printInsnRiscv_transparent {calls : List Call} {s : DisState σ} {call : Call}
    (hrun : Run parse table init calls s) (hmeets : Meets table calls s call) :
    ∃ s' out, printInsnRiscv parse table s call = some (s', out) ∧ Transparent parse table init calls call s' out := by
  obtain ⟨hc, hsubsets⟩ := hrun.invariant
  obtain ⟨s', out, hprint, hstate, -, hinsn, -⟩ := printInsnRiscv_spec hc hmeets.promised hmeets.fits
  refine ⟨s', out, hprint, hstate, ?_, ?_⟩
  · intro subsets packet hout
    obtain ⟨hnot, hused⟩ := hinsn subsets packet hout
    rw [hused, subsetsAfter_snoc]
    cases hahead : archAhead table calls with
    | false => rw [hsubsets hahead]
    | true =>
      obtain ⟨sym, hat, hname⟩ := hmeets.ahead hahead hnot
      rw [searchedSubsets_arch parse hat hname, searchedSubsets_arch parse hat hname]
  · obtain ⟨fresh, hfresh, hlist⟩ := @search_fresh σ parse table call hmeets.promised
      (subsetsAfter parse table init calls)
    rw [hstate, subsetsAfter_snoc]
    exact ⟨fresh, hfresh, hlist⟩

end Run

/-! ## Going back -/

/-- Eight bytes of code. -/
def textSection : Section := ⟨1, 0, 8, true⟩

/-- An instruction at 0 and data at 4. -/
def textTable : Symtab where
  symbols := [⟨"$xrv64i2p1".toList, textSection, 0, by decide⟩, ⟨"$d".toList, textSection, 4, by decide⟩]
  elf := true
  sorted := by decide

/-- The memory holds nops. -/
def textCall (memaddr : BitVec 64) : Call where
  memaddr
  sec := some textSection
  symtabPos := -1
  stopOffset := 8
  disassembleData := false
  readMemory _ n := some ([0x13, 0, 0, 0].take n)

/-- After the instruction at 0. -/
def afterInsn : DisState (List Char) where
  lastMapSymbol := 0
  lastStopOffset := 8
  lastMapSymbolBoundary := 4
  lastMapState := .mapInsn
  lastMapSection := some textSection
  subsets := "rv64i2p1".toList

theorem textCall_promised (memaddr : BitVec 64) : Promised textTable (textCall memaddr) :=
  ⟨.inl rfl, fun h => by cases h⟩

theorem run_afterInsn : Run id textTable [] [textCall 0] afterInsn := by
  have hfits : CacheFits textTable ({ subsets := [] } : DisState (List Char)) (textCall 0) :=
    ⟨fun _ h => absurd h (by decide), fun _ h => absurd h (by decide)⟩
  exact Run.step Run.start ⟨textCall_promised 0, hfits, fun h => by cases h⟩ rfl

theorem printInsnRiscv_transparent_forward :
    ∃ s' out, printInsnRiscv id textTable afterInsn (textCall 4) = some (s', out) ∧
      Transparent id textTable [] [textCall 0] (textCall 4) s' out :=
  printInsnRiscv_transparent run_afterInsn
    ⟨textCall_promised 4, ⟨fun _ h => absurd h (by decide), fun _ h => absurd h (by decide)⟩,
      fun h => absurd h (by decide)⟩

/-- After the data at 4, the address 0 is below the boundary of its symbol, and it is taken for data. -/
theorem cache_answers_before_symbol :
    Promised textTable (textCall 4) ∧ Promised textTable (textCall 0) ∧
    ((printInsnRiscv id textTable { subsets := [] } (textCall 4)).bind fun (s, _) =>
      (printInsnRiscv id textTable s (textCall 0)).map fun (s', _) => s'.lastMapState) = some .mapData ∧
    mappingState textTable (textCall 0) = .mapInsn ∧
    (riscvSearchMappingSymbol id textTable { subsets := [] } (textCall 0)).map Prod.fst = some .mapInsn := by
  refine ⟨textCall_promised 4, textCall_promised 0, ?_, ?_, ?_⟩ <;> decide

end RiscvBinutils.Dis
