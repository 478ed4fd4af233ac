/-
`riscv_check_mapping_symbols`: where mapping symbols of different frags are at one address, one of
them is left, and it is the one that the bytes behind it need, if an architecture is not taken away
with the others.
-/
import RiscvBinutils.Gas.MappingFrags

namespace RiscvBinutils.Gas

open RiscvBinutils.Base RiscvBinutils.Opcode

/-! ## What is claimed of the symbols -/

/-- The last symbol at or before `p`. -/
structure IsLastAt (symbols : List MapSymbol) (p : Nat) (symbol : MapSymbol) : Prop where
  mem : symbol ∈ symbols
  le : symbol.value ≤ p
  last : ∀ other ∈ symbols, other.value ≤ p → other.value ≤ symbol.value

/-- The symbols describe the bytes: `$d` is the last symbol of the data and of the odd padding bytes only, every
instruction has the architecture it was emitted with, and no two symbols have one value. -/
structure Describes (bytes : List ByteKind) (symbols : List MapSymbol) : Prop where
  state : ∀ (p : Nat) (byte : ByteKind), bytes[p]? = some byte → ∃ symbol, IsLastAt symbols p symbol ∧
    (symbol.name = dataName ↔ byte = .data ∨ byte = .oddPadding) ∧
    (symbol.name = dataName ∨ symbol.name = insnName ∨ isArchName symbol.name = true)
  arch : ∀ (p : Nat) (arch : List Char), bytes[p]? = some (.insn arch) → ∃ symbol,
    IsLastAt (symbols.filter fun symbol => isArchName symbol.name) p symbol ∧ symbol.name = insnName ++ arch
  distinct : (symbols.map Mark.value).Nodup

/-! ## Where an architecture is kept -/

/-- The first symbols of the frags at an address. -/
def symbolsAt (address : Nat) (frags : List Frag) : List MapSymbol :=
  (frags.filter fun frag => frag.address = address).filterMap Frag.firstMapSymbol

/-- A `$xrv…` at the end of its frag is followed at its address by one symbol at most, which is not `$d`. -/
def ArchKept : List Frag → Prop
  | [] => True
  | frag :: frags =>
    (∀ symbol, frag.lastMapSymbol = some symbol → isArchName symbol.name = true →
      symbol.value = frag.content.length →
      symbolsAt (frag.address + frag.content.length) frags = [] ∨
        ∃ next, symbolsAt (frag.address + frag.content.length) frags = [next] ∧ next.name ≠ dataName) ∧
    ArchKept frags

def StartsMark (es : List MapEvent) : Prop := ∃ n rest, es = .mark n :: rest

/-- The same for the sequences. -/
def ChainKept : List (List MapEvent) → Prop
  | [] => True
  | es :: ess =>
    (∀ init n, es = init ++ [Event.mark n] → isArchName n = true → ∀ n' rest, ess.flatten = .mark n' :: rest →
      n' ≠ dataName ∧ ¬ StartsMark rest) ∧
    ChainKept ess

section Kept

variable {address : Nat} {frags : List Frag} {ess : List (List MapEvent)}

theorem symbolsAt_cons (address : Nat) (frag : Frag) (frags : List Frag) :
    symbolsAt address (frag :: frags) =
      (if frag.address = address then frag.firstMapSymbol.toList else []) ++ symbolsAt address frags := by
  unfold symbolsAt
  by_cases h : frag.address = address
  · rw [if_pos h, List.filter_cons_of_pos (by simpa using h)]
    cases hfirst : frag.firstMapSymbol with
    | none => rw [List.filterMap_cons_none hfirst]; rfl
    | some symbol => rw [List.filterMap_cons_some hfirst]; rfl
  · rw [if_neg h, List.filter_cons_of_neg (by simpa using h)]
    rfl

/-- The marks at the start are first symbols of frags at the address. -/
theorem symbolsAt_start (hplaced : PlacedFrags address frags ess) {n : List Char} {rest : List MapEvent}
    (hstart : ess.flatten = .mark n :: rest) :
    ∃ symbols, symbolsAt address frags = ⟨n, 0⟩ :: symbols ∧ (StartsMark rest → symbols ≠ []) := by
  induction hplaced generalizing n rest with
  | nil => cases hstart
  | @cons address frag frags es ess haddress hholds hrest ih =>
    have hfirst : frag.firstMapSymbol = startMark es := by
      rw [hholds.first, deadSymbol, if_neg (by decide), Option.none_or]
    rw [symbolsAt_cons, if_pos haddress, hfirst]
    cases es with
    | nil =>
      obtain ⟨symbols, hsymbols, hmore⟩ := ih hstart
      exact ⟨symbols, hsymbols, hmore⟩
    | cons e es =>
      cases e with
      | byte b => cases hstart
      | mark m =>
        rw [List.flatten_cons, List.cons_append] at hstart
        obtain ⟨hm, rfl⟩ := List.cons.inj hstart
        cases hm
        refine ⟨_, rfl, ?_⟩
        rintro ⟨n', rest', hmark⟩
        cases es with
        | nil =>
          obtain ⟨symbols, hsymbols, -⟩ := ih hmark
          have haddr : address + (bytesOf [(.mark n : MapEvent)]).length = address := rfl
          rw [haddr] at hsymbols
          rw [hsymbols]
          exact List.cons_ne_nil _ _
        | cons e es =>
          cases e with
          | byte b => cases hmark
          | mark m' =>
            rcases List.isChain_cons_cons.mp hholds.apart with ⟨h | h, -⟩ <;> cases h

theorem ArchKept.chain (hplaced : PlacedFrags address frags ess) (h : ArchKept frags) : ChainKept ess := by
  induction hplaced with
  | nil => exact trivial
  | @cons address frag frags es ess haddress hholds hrest ih =>
    obtain ⟨hhead, htail⟩ := h
    refine ⟨?_, ih htail⟩
    rintro init n rfl harch n' rest hstart
    have hlast : frag.lastMapSymbol = some ⟨n, (bytesOf init).length⟩ := by
      rw [hholds.last, marksFrom_concat_mark, List.getLast?_concat, Nat.zero_add]
      rfl
    have hlen : frag.content.length = (bytesOf init).length := by
      rw [hholds.content, bytesOf_concat_mark]
    obtain ⟨symbols, hsymbols, hmore⟩ := symbolsAt_start hrest hstart
    have hat := hhead _ hlast harch hlen.symm
    rw [haddress, hholds.content, hsymbols] at hat
    rcases hat with hnil | ⟨next, hone, hdata⟩
    · cases hnil
    · obtain ⟨rfl, hsingle⟩ := List.cons.inj hone
      exact ⟨hdata, fun hmark => hmore hmark hsingle⟩

end Kept

/-! ## The inner loop -/

/-- One of the frags has lost the `$x` at its start; the frags before it are empty. -/
inductive PlacedDead : Nat → List Frag → List (List MapEvent) → Prop
  | here {address : Nat} {frag : Frag} {frags : List Frag} {es : List MapEvent} {ess : List (List MapEvent)}
    (haddress : frag.address = address) (hholds : FragHolds true frag es)
    (hrest : PlacedFrags (address + (bytesOf es).length) frags ess) : PlacedDead address (frag :: frags) (es :: ess)
  | later {address : Nat} {frag : Frag} {frags : List Frag} {ess : List (List MapEvent)}
    (haddress : frag.address = address) (hholds : FragHolds false frag [])
    (hrest : PlacedDead address frags ess) : PlacedDead address (frag :: frags) ([] :: ess)

section Inner

variable {address : Nat} {frags : List Frag} {ess : List (List MapEvent)}

theorem holds_dead {frag : Frag} {es : List MapEvent} (h : FragHolds false frag (.mark insnName :: es)) :
    FragHolds true (frag.symbolRemove ⟨insnName, 0⟩) es := by
  refine ⟨h.content, ?_, ?_, ?_, h.apart.tail, fun n hn => h.named n (List.mem_cons_of_mem _ hn)⟩
  · show frag.symbols.erase _ = _
    rw [h.symbols, marksFrom, List.erase_cons_head]
  · show frag.firstMapSymbol = _
    rw [h.first]
    rfl
  · show frag.lastMapSymbol = _
    rw [h.last, marksFrom, List.getLast?_cons]
    cases (marksFrom 0 es).getLast? <;> rfl

/-- What the inner loop decides, by what is next in the section. -/
theorem checkNext_spec (hplaced : PlacedFrags address frags ess) (hend : ess.getLast? = some []) (last : MapSymbol) :
    (ess.flatten = [] ∧ checkNext last frags = (true, frags)) ∨
    (∃ b rest, ess.flatten = .byte b :: rest ∧ checkNext last frags = (false, frags)) ∨
    (∃ n rest, ess.flatten = .mark n :: rest ∧ ¬ (isArchName last.name = true ∧ n = insnName) ∧
      checkNext last frags = (true, frags)) ∨
    (∃ rest frags' ess', ess.flatten = .mark insnName :: rest ∧ isArchName last.name = true ∧
      checkNext last frags = (false, frags') ∧ PlacedDead address frags' ess' ∧ ess'.flatten = rest ∧
      ess'.getLast? = some [] ∧ (ChainKept ess → ChainKept ess') ∧ frags'.length = frags.length) := by
  induction hplaced with
  | nil => cases hend
  | @cons address frag frags es ess haddress hholds hrest ih =>
    have hfirst : frag.firstMapSymbol = startMark es := by
      rw [hholds.first, deadSymbol, if_neg (by decide), Option.none_or]
    unfold checkNext
    rw [hfirst]
    cases es with
    | nil =>
      cases hrest with
      | nil => exact .inl ⟨rfl, rfl⟩
      | @cons _ frag' frags es' ess haddress' hholds' hrest' =>
        have hsame : ¬ frag.address ≠ frag'.address := by
          rw [haddress, haddress']
          exact fun h => h rfl
        rw [List.getLast?_cons_cons] at hend
        dsimp only [startMark]
        rw [if_neg hsame]
        -- the loop goes on behind an empty frag
        rcases ih hend with ⟨hnil, hcheck⟩ | ⟨b, rest, hbyte, hcheck⟩ | ⟨n, rest, hmark, hname, hcheck⟩ |
          ⟨rest, frags', ess', hmark, harch, hcheck, hdead, hflat, hend', hchain, hlength⟩
        · exact .inl ⟨hnil, by rw [hcheck]⟩
        · exact .inr (.inl ⟨b, rest, hbyte, by rw [hcheck]⟩)
        · exact .inr (.inr (.inl ⟨n, rest, hmark, hname, by rw [hcheck]⟩))
        · refine .inr (.inr (.inr ⟨rest, frag :: frags', [] :: ess', hmark, harch, by rw [hcheck],
            .later haddress hholds hdead, hflat, ?_, ?_, by rw [List.length_cons, List.length_cons, hlength]⟩))
          · cases ess' with
            | nil => cases hend'
            | cons es ess' =>
              rw [List.getLast?_cons_cons]
              exact hend'
          · rintro ⟨-, hkept⟩
            refine ⟨?_, hchain hkept⟩
            intro init n hinit
            simp at hinit
    | cons e es =>
      have hne : ess ≠ [] := by
        rintro rfl
        simp at hend
      cases e with
      | mark n =>
        dsimp only [startMark]
        by_cases hcond : isArchName last.name = true ∧ n = insnName
        · obtain ⟨harch, rfl⟩ := hcond
          rw [if_pos ⟨harch, rfl⟩]
          refine .inr (.inr (.inr ⟨es ++ ess.flatten, _, es :: ess, rfl, harch, rfl,
            .here haddress (holds_dead hholds) hrest, rfl, ?_, ?_, rfl⟩))
          · obtain ⟨es', ess', rfl⟩ := List.exists_cons_of_ne_nil hne
            rw [List.getLast?_cons_cons] at hend ⊢
            exact hend
          · rintro ⟨hhead, hkept⟩
            refine ⟨?_, hkept⟩
            rintro init n rfl
            exact hhead (.mark insnName :: init) n rfl
        · rw [if_neg hcond]
          exact .inr (.inr (.inl ⟨n, _, rfl, hcond, rfl⟩))
      | byte b =>
        refine .inr (.inl ⟨b, _, rfl, ?_⟩)
        cases hrest with
        | nil => exact absurd rfl hne
        | @cons _ frag' frags es' ess haddress' hholds' hrest' =>
          have hdiff : frag.address ≠ frag'.address := by
            rw [haddress, haddress', bytesOf, List.length_cons]
            omega
          dsimp only [startMark]
          rw [if_pos hdiff]

end Inner

/-! ## The frags one after the other -/

section Outer

variable {address : Nat} {frags : List Frag} {ess : List (List MapEvent)} {v : MapView}

/-- What remains of a frag and of those behind it. -/
theorem remaining_cons {frag : Frag} {es rest : List MapEvent} (haddress : frag.address = address)
    (hcontent : frag.content = bytesOf es) (hsymbols : frag.symbols = marksFrom 0 es)
    (hremaining : remainingSymbols frags = marksFrom (address + (bytesOf es).length) rest)
    (hbytes : sectionBytes frags = bytesOf rest) :
    remainingSymbols (frag :: frags) = marksFrom address (es ++ rest) ∧
      sectionBytes (frag :: frags) = bytesOf (es ++ rest) := by
  constructor
  · rw [marksFrom_append, ← hremaining, remainingSymbols, List.flatMap_cons, hsymbols, haddress, ← Nat.add_zero address,
      marksFrom_shift address 0]
    rfl
  · rw [bytesOf_append, ← hbytes, ← hcontent]
    rfl

/-- The result of the check: what remains is right, and no two marks are at one place. -/
structure Cleaned (address : Nat) (frags : List Frag) (v : MapView) (before es : List MapEvent) : Prop where
  symbols : remainingSymbols frags = marksFrom address es
  bytes : sectionBytes frags = bytesOf es
  right : ReadsRight v es
  apart : MarksApart es
  named : Named es
  start : ¬ StartsMark before → ¬ StartsMark es

/-- A mark may be followed by what does not start with one. -/
theorem apart_append {es rest : List MapEvent} (hes : MarksApart es) (hrest : MarksApart rest)
    (h : (∀ n, es.getLast? ≠ some (.mark n)) ∨ ¬ StartsMark rest) : MarksApart (es ++ rest) := by
  refine List.isChain_append.mpr ⟨hes, hrest, ?_⟩
  intro e he e' he'
  cases e with
  | byte b => exact .inl rfl
  | mark n =>
    cases e' with
    | byte b => exact .inr rfl
    | mark n' =>
      rcases h with hend | hstart
      · exact absurd he (hend n)
      · cases rest with
        | nil => cases he'
        | cons e rest =>
          cases he'
          exact absurd ⟨n', rest, rfl⟩ hstart

/-- The frag stays as it is, or loses its mark at the end, and is put before the rest. -/
theorem Cleaned.cons {frag : Frag} {es before rest : List MapEvent} (haddress : frag.address = address)
    (hcontent : frag.content = bytesOf es) (hsymbols : frag.symbols = marksFrom 0 es) (hright : ReadsRight v es)
    (hapart : MarksApart es) (hnamed : Named es)
    (hends : (∀ n, es.getLast? ≠ some (.mark n)) ∨ ¬ StartsMark before)
    (hrest : Cleaned (address + (bytesOf es).length) frags (seeAll v es) before rest) {whole : List MapEvent}
    (hwhole : ¬ StartsMark whole → ¬ StartsMark es ∧ (es = [] → ¬ StartsMark before)) :
    Cleaned address (frag :: frags) v whole (es ++ rest) := by
  obtain ⟨hsyms, hbytes⟩ := remaining_cons haddress hcontent hsymbols hrest.symbols hrest.bytes
  refine ⟨hsyms, hbytes, good_append.mpr ⟨hright, hrest.right⟩,
    apart_append hapart hrest.apart (hends.imp_right hrest.start), ?_, ?_⟩
  · intro n hn
    rcases List.mem_append.mp hn with hmem | hmem
    · exact hnamed n hmem
    · exact hrest.named n hmem
  · intro hstart
    obtain ⟨hes, hnil⟩ := hwhole hstart
    cases es with
    | nil => exact hrest.start (hnil rfl)
    | cons e es =>
      rintro ⟨n, tail, htail⟩
      cases e with
      | byte b => cases htail
      | mark m => exact hes ⟨m, es, rfl⟩

/-- `dropMark` of a frag that ends with a mark. -/
theorem FragHolds.drop {dead : Bool} {frag : Frag} {init : List MapEvent} {n : List Char}
    (h : FragHolds dead frag (init ++ [Event.mark n])) :
    (frag.symbolRemove ⟨n, (bytesOf init).length⟩).symbols = marksFrom 0 init ∧ frag.content = bytesOf init ∧
      MarksApart init ∧ Named init ∧ ∀ m, init.getLast? ≠ some (.mark m) := by
  have hnot := @MarksApart.last_not_mem _ _ init 0 n h.apart
  rw [Nat.zero_add] at hnot
  refine ⟨?_, ?_, h.apart.append_left, fun m hm => h.named m (List.mem_append_left _ hm), ?_⟩
  · show frag.symbols.erase _ = _
    rw [h.symbols, marksFrom_concat_mark, Nat.zero_add, List.erase_append_right _ hnot, List.erase_cons_head,
      List.append_nil]
  · rw [h.content, bytesOf_concat_mark]
  · intro m hm
    obtain ⟨-, -, hends⟩ := List.isChain_append.mp h.apart
    rcases hends (.mark m) hm (.mark n) rfl with hbyte | hbyte <;> cases hbyte

/-- Where the last symbol of a frag is. -/
theorem FragHolds.last_cases {dead : Bool} {frag : Frag} {es : List MapEvent} (h : FragHolds dead frag es) :
    (∃ init n, es = init ++ [Event.mark n] ∧ frag.lastMapSymbol = some ⟨n, (bytesOf init).length⟩) ∨
    (∀ n, es.getLast? ≠ some (.mark n)) ∧ (frag.lastMapSymbol = none ∨
      (∃ symbol, frag.lastMapSymbol = some symbol ∧ symbol.value < (bytesOf es).length) ∨
      (es = [] ∧ dead = true ∧ frag.lastMapSymbol = some ⟨insnName, 0⟩)) := by
  have hlast := h.last
  rcases List.eq_nil_or_concat' es with rfl | ⟨init, e, rfl⟩
  · refine .inr ⟨fun n hn => (by cases hn), ?_⟩
    cases dead with
    | false => exact .inl hlast
    | true => exact .inr (.inr ⟨rfl, rfl, hlast⟩)
  · cases e with
    | mark n =>
      refine .inl ⟨init, n, rfl, ?_⟩
      rw [hlast, marksFrom_concat_mark, List.getLast?_concat, Nat.zero_add]
      rfl
    | byte b =>
      refine .inr ⟨fun n hn => (by rw [List.getLast?_concat] at hn; cases hn), ?_⟩
      rw [length_bytesOf_concat_byte]
      rw [marksFrom_concat_byte] at hlast
      cases hmarks : (marksFrom 0 init).getLast? with
      | some symbol =>
        rw [hmarks] at hlast
        have hrange := marksFrom_range (List.mem_of_getLast? hmarks)
        exact .inr (.inl ⟨symbol, hlast, by omega⟩)
      | none =>
        rw [hmarks, Option.none_or] at hlast
        cases dead with
        | false => exact .inl hlast
        | true => exact .inr (.inl ⟨_, hlast, Nat.succ_pos _⟩)

/-- At the end of a frag, the next mark of the section decides. -/
theorem see_next {init : List MapEvent} {n n' : List Char} {rest : List MapEvent} (hnamed : Named (.mark n' :: rest))
    (hdata : isArchName n = true → n' ≠ dataName) (hinsn : ¬ (isArchName n = true ∧ n' = insnName))
    (h : ReadsRight (seeAll v (init ++ [Event.mark n])) (.mark n' :: rest)) :
    ReadsRight (seeAll v init) (.mark n' :: rest) := by
  have hname : riscvElfIsMappingSymbols n' = true := hnamed n' List.mem_cons_self
  have harch : isArchName n = true → isArchName n' = true := by
    intro harch
    by_contra hnot
    exact hinsn ⟨harch, eq_insnName hname (hdata harch) (by simpa using hnot)⟩
  rw [seeAll, viewAfter_append] at h
  have hsee : ((seeAll v init).see n).see n' = (seeAll v init).see n' := see_see harch
  show ReadsRight ((seeAll v init).see n') rest
  rw [← hsee]
  exact h

theorem placed_named (h : PlacedFrags address frags ess) : Named ess.flatten := by
  induction h with
  | nil => exact fun n hn => by cases hn
  | cons _ hholds _ ih =>
    intro n hn
    rcases List.mem_append.mp hn with hmem | hmem
    · exact hholds.named n hmem
    · exact ih n hmem

theorem not_starts {es rest : List MapEvent} (h : ¬ StartsMark (es ++ rest)) :
    ¬ StartsMark es ∧ (es = [] → ¬ StartsMark rest) := by
  constructor
  · rintro ⟨n, tail, rfl⟩
    exact h ⟨n, tail ++ rest, rfl⟩
  · rintro rfl
    exact h

/-- What the check is claimed to do with `k` frags, of which one may have lost its first symbol. -/
def ChecksRight (k : Nat) : Prop :=
  ∀ {address : Nat} {frags : List Frag} {ess : List (List MapEvent)} {v : MapView}, frags.length = k →
    (PlacedFrags address frags ess ∨ (PlacedDead address frags ess ∧ ¬ StartsMark ess.flatten)) →
    (frags = [] ∨ ess.getLast? = some []) → ChainKept ess → ReadsRight v ess.flatten →
    ∃ es, Cleaned address (riscvCheckMappingSymbols k frags) v ess.flatten es

/-! ### The first frag, where the others have all their symbols -/

section Head

variable {k : Nat} {dead : Bool} {frag : Frag} {es : List MapEvent}

/-- The frag is left as it is. -/
theorem check_leave (ih : ChecksRight k) (haddress : frag.address = address) (hholds : FragHolds dead frag es)
    (hrest : PlacedFrags (address + (bytesOf es).length) frags ess) (hlen : frags.length = k)
    (hend : frags = [] ∨ ess.getLast? = some []) (hkept : ChainKept ess) (hright : ReadsRight v (es ++ ess.flatten))
    (hends : (∀ n, es.getLast? ≠ some (.mark n)) ∨ ¬ StartsMark ess.flatten) :
    ∃ es', Cleaned address (frag :: riscvCheckMappingSymbols k frags) v (es ++ ess.flatten) es' := by
  obtain ⟨hright₁, hright₂⟩ := good_append.mp hright
  obtain ⟨rest, hclean⟩ := ih hlen (.inl hrest) hend hkept hright₂
  exact ⟨_, hclean.cons haddress hholds.content hholds.symbols hright₁ hholds.apart hholds.named hends not_starts⟩

/-- The frag loses the symbol at its end. -/
theorem check_drop (ih : ChecksRight k) {init : List MapEvent} {n : List Char} (haddress : frag.address = address)
    (hholds : FragHolds dead frag (init ++ [Event.mark n]))
    (hrest : PlacedFrags (address + (bytesOf init).length) frags ess) (hlen : frags.length = k)
    (hend : frags = [] ∨ ess.getLast? = some []) (hkept : ChainKept ess) (hright : ReadsRight v init)
    (hseen : ReadsRight (seeAll v init) ess.flatten) :
    ∃ es', Cleaned address (frag.symbolRemove ⟨n, (bytesOf init).length⟩ :: riscvCheckMappingSymbols k frags) v
      (init ++ [Event.mark n] ++ ess.flatten) es' := by
  obtain ⟨hsymbols, hcontent, hapart, hnamed, hnomark⟩ := hholds.drop
  have hstarts : ¬ StartsMark (init ++ [Event.mark n] ++ ess.flatten) →
      ¬ StartsMark init ∧ (init = [] → ¬ StartsMark ess.flatten) := by
    intro h
    constructor
    · rintro ⟨m, tail, rfl⟩
      exact h ⟨m, _, rfl⟩
    · rintro rfl
      exact absurd ⟨n, _, rfl⟩ h
  obtain ⟨rest, hclean⟩ := ih hlen (.inl hrest) hend hkept hseen
  have haddress' : (frag.symbolRemove ⟨n, (bytesOf init).length⟩).address = address := haddress
  exact ⟨_, hclean.cons haddress' hcontent hsymbols hright hapart hnamed (.inl hnomark) hstarts⟩

/-- A symbol at the end of the frag is judged by what follows. -/
theorem checkFrag_end (haddress : frag.address = address)
    (hrest : PlacedFrags (address + (bytesOf es).length) frags ess) (hend : ess.getLast? = some []) {symbol : MapSymbol}
    (hlast : frag.lastMapSymbol = some symbol) (hvalue : symbol.value = (bytesOf es).length) :
    checkFrag frag frags =
      (if (checkNext symbol frags).1 then frag.symbolRemove symbol else frag, (checkNext symbol frags).2) := by
  unfold checkFrag
  rw [hlast]
  cases hrest with
  | nil => cases hend
  | cons hnext _ _ =>
    dsimp only
    rw [if_neg (by rw [haddress, hnext, hvalue]; exact Nat.lt_irrefl _)]

theorem check_checkFrag (k : Nat) (frag : Frag) (frags : List Frag) :
    riscvCheckMappingSymbols (k + 1) (frag :: frags) =
      (checkFrag frag frags).1 :: riscvCheckMappingSymbols k (checkFrag frag frags).2 := rfl

/-- The frag has a symbol at its end. -/
theorem check_mark (ih : ChecksRight k) {init : List MapEvent} {n : List Char} (haddress : frag.address = address)
    (hholds : FragHolds dead frag (init ++ [Event.mark n]))
    (hlast : frag.lastMapSymbol = some ⟨n, (bytesOf init).length⟩)
    (hrest : PlacedFrags (address + (bytesOf (init ++ [Event.mark n])).length) frags ess) (hlen : frags.length = k)
    (hend : ess.getLast? = some []) (hkept : ChainKept ((init ++ [Event.mark n]) :: ess))
    (hright : ReadsRight v (init ++ [Event.mark n] ++ ess.flatten)) :
    ∃ es', Cleaned address (riscvCheckMappingSymbols (k + 1) (frag :: frags)) v
      (init ++ [Event.mark n] ++ ess.flatten) es' := by
  obtain ⟨hright₁, hright₂⟩ := good_append.mp hright
  have hinit : bytesOf (init ++ [Event.mark n]) = bytesOf init := by
    rw [bytesOf_concat_mark]
  have hdrop := @check_drop address frags ess v k dead frag ih init n haddress hholds (hinit ▸ hrest) hlen (.inr hend)
    hkept.2 (good_append.mp hright₁).1
  rw [check_checkFrag, checkFrag_end haddress hrest hend hlast (by rw [hinit])]
  rcases checkNext_spec hrest hend ⟨n, (bytesOf init).length⟩ with ⟨hnil, hnext⟩ | ⟨b, rest, hbyte, hnext⟩ |
    ⟨n', rest, hmark, hname, hnext⟩ | ⟨rest, frags', ess', hmark, harch, hnext, hplaced, hflat, hend', hchain, hlen'⟩
  · -- nothing follows
    rw [hnext]
    exact hdrop (by rw [hnil]; trivial)
  · -- a byte follows
    rw [hnext]
    refine check_leave ih haddress hholds hrest hlen (.inr hend) hkept.2 hright (.inr ?_)
    rintro ⟨m, tail, htail⟩
    rw [hbyte] at htail
    cases htail
  · -- a symbol follows, and this one is removed
    rw [hnext]
    apply hdrop
    have hnamed' : Named (.mark n' :: rest) := hmark ▸ placed_named hrest
    rw [hmark] at hright₂ ⊢
    exact see_next hnamed' (fun harch => (hkept.1 init n rfl harch n' rest hmark).1) hname hright₂
  · -- `$x` follows `$xrv…`, and is removed
    rw [hnext]
    have hnot := (hkept.1 init n rfl harch insnName rest hmark).2
    have hrest' : ReadsRight (seeAll v (init ++ [Event.mark n])) ess'.flatten := by
      have hsee : (seeAll v (init ++ [Event.mark n])).see insnName = seeAll v (init ++ [Event.mark n]) := by
        rw [seeAll, viewAfter_append]
        show ((seeAll v init).see n).see insnName = (seeAll v init).see n
        rw [see_arch harch, see_insn]
      rw [hmark] at hright₂
      rw [hflat, ← hsee]
      exact hright₂
    rw [← hflat] at hnot
    obtain ⟨tail, hclean⟩ := ih (hlen'.trans hlen) (.inr ⟨hplaced, hnot⟩) (.inr hend') (hchain hkept.2) hrest'
    exact ⟨_, hclean.cons haddress hholds.content hholds.symbols hright₁ hholds.apart hholds.named (.inr hnot)
      (fun h => ⟨(not_starts h).1, fun hnil => absurd hnil (by simp)⟩)⟩

/-- What the check of a frag leaves that it does not change. -/
theorem check_of_left (h : checkFrag frag frags = (frag, frags)) :
    riscvCheckMappingSymbols (k + 1) (frag :: frags) = frag :: riscvCheckMappingSymbols k frags := by
  rw [check_checkFrag, h]

/-- The symbol of an empty frag was removed before: it is removed again, if at all. -/
theorem checkFrag_removed (haddress : frag.address = address) (hholds : FragHolds true frag [])
    (hlast : frag.lastMapSymbol = some ⟨insnName, 0⟩) (hrest : PlacedFrags address frags ess)
    (hend : frags = [] ∨ ess.getLast? = some []) (hstart : ¬ StartsMark ess.flatten) :
    checkFrag frag frags = (frag, frags) := by
  rcases hend with hnil | hend
  · unfold checkFrag
    rw [hlast, hnil]
  · have hremove : frag.symbolRemove ⟨insnName, 0⟩ = frag := by
      have hsymbols := hholds.symbols
      unfold Frag.symbolRemove
      rw [hsymbols]
      obtain ⟨_, _, _, _, _, symbols⟩ := frag
      obtain rfl : symbols = [] := hsymbols
      rfl
    have hinner := @checkFrag_end address frags ess frag [] haddress hrest hend _ hlast rfl
    rw [hremove, ite_self] at hinner
    rw [hinner]
    rcases checkNext_spec hrest hend ⟨insnName, 0⟩ with ⟨-, hnext⟩ | ⟨b, rest, -, hnext⟩ |
      ⟨n', rest, hmark, -⟩ | ⟨rest, frags', ess', hmark, -⟩
    · rw [hnext]
    · rw [hnext]
    · exact absurd ⟨n', rest, hmark⟩ hstart
    · exact absurd ⟨_, rest, hmark⟩ hstart

theorem check_head (ih : ChecksRight k) (haddress : frag.address = address) (hholds : FragHolds dead frag es)
    (hrest : PlacedFrags (address + (bytesOf es).length) frags ess) (hlen : frags.length = k)
    (hdead : dead = true → ¬ StartsMark (es ++ ess.flatten)) (hend : (es :: ess).getLast? = some [])
    (hkept : ChainKept (es :: ess)) (hright : ReadsRight v (es ++ ess.flatten)) :
    ∃ es', Cleaned address (riscvCheckMappingSymbols (k + 1) (frag :: frags)) v (es ++ ess.flatten) es' := by
  have hrestEnd : frags = [] ∨ ess.getLast? = some [] := by
    cases hrest with
    | nil => exact .inl rfl
    | cons _ _ _ =>
      rw [List.getLast?_cons_cons] at hend
      exact .inr hend
  have hsame := check_leave ih haddress hholds hrest hlen hrestEnd hkept.2 hright
  rcases hholds.last_cases with ⟨init, n, rfl, hlast⟩ |
    ⟨hnomark, hnone | ⟨symbol, hlast, hlt⟩ | ⟨rfl, rfl, hlast⟩⟩
  · have hrestLast : ess.getLast? = some [] := by
      rcases hrestEnd with hnil | hsome
      · rw [hnil] at hrest
        cases hrest
        simp at hend
      · exact hsome
    exact check_mark ih haddress hholds hlast hrest hlen hrestLast hkept hright
  · rw [check_of_left]
    · exact hsame (.inl hnomark)
    · unfold checkFrag
      rw [hnone]
  · -- the last symbol is not at the end
    rw [check_of_left]
    · exact hsame (.inl hnomark)
    · unfold checkFrag
      rw [hlast]
      cases hrest with
      | nil => rfl
      | cons hnext _ _ =>
        dsimp only
        rw [if_pos (by rw [haddress, hnext]; omega)]
  · rw [check_of_left (checkFrag_removed haddress hholds hlast hrest hrestEnd (hdead rfl))]
    exact hsame (.inr (hdead rfl))

end Head

/-- Going over the frags leaves marks that are right and at different places. -/
theorem check_spec (k : Nat) : ChecksRight k := by
  induction k with
  | zero =>
    intro address frags ess v hlen hplaced _ _ _
    obtain rfl := List.length_eq_zero_iff.mp hlen
    refine ⟨[], rfl, rfl, trivial, List.IsChain.nil, fun n hn => ?_, ?_⟩
    · cases hn
    · rintro - ⟨n, rest, hmark⟩
      cases hmark
  | succ k ih =>
    intro address frags ess v hlen hplaced hend hkept hright
    have hne : frags ≠ [] := by
      rintro rfl
      cases hlen
    have hlast := hend.resolve_left hne
    rcases hplaced with hplaced | ⟨hdead, hstart⟩
    · cases hplaced with
      | nil => exact absurd rfl hne
      | cons haddress hholds hrest =>
        exact check_head ih haddress hholds hrest (Nat.succ.inj hlen) (fun h => by cases h) hlast hkept hright
    · cases hdead with
      | here haddress hholds hrest =>
        exact check_head ih haddress hholds hrest (Nat.succ.inj hlen) (fun _ => hstart) hlast hkept hright
      | @later frag frags ess haddress hholds hrest =>
        have hrestEnd : ess.getLast? = some [] := by
          cases hrest with
          | here _ _ _ =>
            rw [List.getLast?_cons_cons] at hlast
            exact hlast
          | later _ _ _ =>
            rw [List.getLast?_cons_cons] at hlast
            exact hlast
        obtain ⟨rest, hclean⟩ := ih (Nat.succ.inj hlen) (.inr ⟨hrest, hstart⟩) (.inr hrestEnd) hkept.2 hright
        have hcheck : checkFrag frag frags = (frag, frags) := by
          unfold checkFrag
          rw [hholds.last]
          rfl
        rw [riscvCheckMappingSymbols, hcheck]
        exact ⟨_, hclean.cons haddress hholds.content hholds.symbols trivial hholds.apart hholds.named (.inr hstart)
          not_starts⟩

end Outer

/-! ## The symbols describe the bytes -/

section Describe

variable {es : List MapEvent}

/-- The state behind a sequence is that of its last mark. -/
theorem seeAll_cur (v : MapView) (n : Nat) (es : List MapEvent) :
    (∃ symbol, (marksFrom n es).getLast? = some symbol ∧ (seeAll v es).cur = stateOfName symbol.name) ∨
      (marksFrom n es = [] ∧ seeAll v es = v) := by
  induction es using List.reverseRecOn with
  | nil => exact .inr ⟨rfl, rfl⟩
  | append_singleton es e ih =>
    cases e with
    | byte b =>
      rw [marksFrom_concat_byte, seeAll, viewAfter_append]
      exact ih
    | mark m =>
      refine .inl ⟨⟨m, n + (bytesOf es).length⟩, ?_, ?_⟩
      · rw [marksFrom_concat_mark, List.getLast?_concat]
      · rw [seeAll, viewAfter_append]
        exact see_cur _ m

/-- The architecture is that of the last `$xrv…`. -/
theorem seeAll_arch (v : MapView) (n : Nat) (es : List MapEvent) :
    (∃ symbol, ((marksFrom n es).filter fun symbol => isArchName symbol.name).getLast? = some symbol ∧
      (seeAll v es).arch = some (symbol.name.drop 2)) ∨ (seeAll v es).arch = v.arch := by
  induction es using List.reverseRecOn with
  | nil => exact .inr rfl
  | append_singleton es e ih =>
    cases e with
    | byte b =>
      rw [marksFrom_concat_byte, seeAll, viewAfter_append]
      exact ih
    | mark m =>
      rw [marksFrom_append, seeAll, viewAfter_append, marksFrom, marksFrom, List.filter_append]
      show (∃ symbol, _ ∧ ((seeAll v es).see m).arch = _) ∨ ((seeAll v es).see m).arch = _
      by_cases harch : isArchName m = true
      · refine .inl ⟨⟨m, n + (bytesOf es).length⟩, ?_, by rw [see_arch harch]⟩
        have hone : [(⟨m, n + (bytesOf es).length⟩ : MapSymbol)].filter (fun symbol => isArchName symbol.name) =
            [⟨m, n + (bytesOf es).length⟩] := List.filter_cons_of_pos harch
        rw [hone, List.getLast?_concat]
      · have hsame : ((seeAll v es).see m).arch = (seeAll v es).arch := by
          unfold MapView.see
          rw [if_neg harch]
          split <;> rfl
        have hnone : [(⟨m, n + (bytesOf es).length⟩ : MapSymbol)].filter (fun symbol => isArchName symbol.name) = [] :=
          List.filter_cons_of_neg harch
        rw [hnone, List.append_nil, hsame]
        exact ih

theorem mem_marksFrom {n : Nat} {symbol : MapSymbol} (h : symbol ∈ marksFrom n es) : .mark symbol.name ∈ es := by
  induction es generalizing n with
  | nil => cases h
  | cons e es ih =>
    cases e with
    | byte b => exact List.mem_cons_of_mem _ (ih h)
    | mark m =>
      rcases List.mem_cons.mp h with rfl | hmem
      · exact List.mem_cons_self
      · exact List.mem_cons_of_mem _ (ih hmem)

/-- The last of the symbols before a byte. -/
theorem isLastAt_of_before {pre post : List MapEvent} {b : ByteKind} {symbol : MapSymbol} (p : MapSymbol → Bool)
    (hapart : MarksApart (pre ++ .byte b :: post)) (hlast : ((marksFrom 0 pre).filter p).getLast? = some symbol) :
    IsLastAt ((marksFrom 0 (pre ++ .byte b :: post)).filter p) (bytesOf pre).length symbol := by
  obtain ⟨hmem, hp⟩ := List.mem_filter.mp (List.mem_of_getLast? hlast)
  obtain ⟨hmem', hle⟩ := (@mem_marksFrom_le _ _ pre post b symbol).mpr hmem
  refine ⟨List.mem_filter.mpr ⟨hmem', hp⟩, hle, ?_⟩
  intro other hother hle'
  obtain ⟨hother, hp'⟩ := List.mem_filter.mp hother
  have hbefore := List.mem_filter.mpr ⟨mem_marksFrom_le.mp ⟨hother, hle'⟩, hp'⟩
  have hpair : ((marksFrom 0 pre).filter p).Pairwise fun m m' => m.value < m'.value :=
    List.Pairwise.filter p (@MarksApart.pairwise _ _ pre 0 hapart.append_left)
  obtain ⟨before, hconcat⟩ := List.getLast?_eq_some_iff.mp hlast
  rw [hconcat] at hpair hbefore
  rcases List.mem_append.mp hbefore with hin | hin
  · exact Nat.le_of_lt ((List.pairwise_append.mp hpair).2.2 other hin symbol List.mem_cons_self)
  · rw [List.mem_singleton.mp hin]

/-- Marks that are right for every byte, at different places, describe the bytes. -/
theorem describes_of_right (hright : ReadsRight startView es) (hapart : MarksApart es) (hnamed : Named es) :
    Describes (bytesOf es) (marksFrom 0 es) := by
  refine ⟨?_, ?_, ?_⟩
  · intro p b hb
    obtain ⟨pre, post, rfl, rfl⟩ := exists_before hb
    have hshows : Shows (seeAll startView pre) b := hright.at_byte
    rcases seeAll_cur startView 0 pre with ⟨symbol, hlast, hcur⟩ | ⟨-, hsame⟩
    · have hin := (@mem_marksFrom_le _ _ pre post b symbol).mpr (List.mem_of_getLast? hlast)
      have hname := hnamed symbol.name (mem_marksFrom hin.1)
      refine ⟨symbol, ?_, ?_, ?_⟩
      · have hat := isLastAt_of_before (fun _ => true) hapart (by rw [List.filter_true]; exact hlast)
        rw [List.filter_true] at hat
        exact hat
      · have hdata : symbol.name = dataName ↔ (seeAll startView pre).cur = .mapData := by
          rw [hcur, stateOfName]
          split
          · rename_i h
            exact ⟨fun _ => rfl, fun _ => h⟩
          · rename_i h
            exact ⟨fun h' => absurd h' h, fun h' => by cases h'⟩
        rw [hdata]
        cases b with
        | data => exact ⟨fun _ => .inl rfl, fun _ => hshows⟩
        | oddPadding => exact ⟨fun _ => .inr rfl, fun _ => hshows⟩
        | nop =>
          have hinsn : (seeAll startView pre).cur = .mapInsn := hshows
          rw [hinsn]
          exact ⟨fun h => (by cases h), fun h => by rcases h with h | h <;> cases h⟩
        | insn arch =>
          rw [hshows.1]
          exact ⟨fun h => (by cases h), fun h => by rcases h with h | h <;> cases h⟩
      · unfold riscvElfIsMappingSymbols at hname
        simpa [or_assoc] using hname
    · rw [hsame] at hshows
      cases b with
      | data => cases hshows
      | oddPadding => cases hshows
      | nop => cases hshows
      | insn arch => cases hshows.1
  · intro p arch hb
    obtain ⟨pre, post, rfl, rfl⟩ := exists_before hb
    have hshows : Shows (seeAll startView pre) (.insn arch) := hright.at_byte
    rcases seeAll_arch startView 0 pre with ⟨symbol, hlast, harch⟩ | hsame
    · refine ⟨symbol, isLastAt_of_before _ hapart hlast, ?_⟩
      have hname : isArchName symbol.name = true := (List.mem_filter.mp (List.mem_of_getLast? hlast)).2
      rw [hshows.2] at harch
      rw [Option.some.inj harch]
      exact (insnName_append_drop hname).symm
    · rw [hshows.2] at hsame
      cases hsame
  · rw [List.nodup_iff_pairwise_ne, List.pairwise_map]
    exact hapart.pairwise.imp fun hlt => Nat.ne_of_lt hlt

end Describe

/-- The mapping symbols that remain describe the bytes of the section, if every odd padding begins at a symbol and no
architecture at the end of a frag is removed. -/
theorem remainingSymbols_describe (arch : ArchStr) (rvc : Bool) (ops : List MapOp) (alignment grown : Nat)
    (hodd : OddPaddingMarked (relaxedFrags arch rvc ops alignment grown))
    (hkept : ArchKept (alignedFrags arch rvc ops alignment grown)) :
    Describes (sectionBytes (assembledFrags arch rvc ops alignment grown))
      (remainingSymbols (assembledFrags arch rvc ops alignment grown)) := by
  obtain ⟨ps, hholds, hgood⟩ := fragsRight_finish arch rvc ops alignment grown
  obtain ⟨ess, hplaced, hright, hend⟩ := fill_frags hholds hgood hodd
  obtain ⟨es, hclean⟩ := check_spec _ rfl (.inl hplaced) (.inr (hend List.getLast?_concat)) (hkept.chain hplaced) hright
  unfold assembledFrags alignedFrags relaxedFrags
  dsimp only
  rw [hclean.symbols, hclean.bytes]
  exact describes_of_right hclean.right hclean.apart hclean.named

/-! ## An odd padding, and an architecture that is lost -/

def archRv32ic : ArchStr := ⟨"rv32i2p1_c2p0".toList, by decide⟩

/-- An instruction, a byte, and an alignment that pads three bytes. -/
def oddOps : List MapOp :=
  [.insn [.bytes 4] (by decide), .data [.bytes 1], .alignCode 3 0 0, .insn [.bytes 4] (by decide)]

theorem oddOps_marked : OddPaddingMarked (relaxedFrags archRv32ic true oddOps 3 0) := by
  have hfrags : ∀ frag ∈ relaxedFrags archRv32ic true oddOps 3 0,
      frag.type.padding (frag.address + frag.content.length) % 2 = 1 →
      frag.lastMapSymbol.map Mark.value = some frag.content.length := by decide
  intro frag hmem alignment max _ hodd
  obtain ⟨symbol, hlast, hvalue⟩ := Option.map_eq_some_iff.mp (hfrags frag hmem hodd)
  exact ⟨symbol, hlast, hvalue⟩

theorem oddOps_kept : ArchKept (alignedFrags archRv32ic true oddOps 3 0) := by
  have hvalue : ∀ frag ∈ alignedFrags archRv32ic true oddOps 3 0,
      frag.lastMapSymbol.map Mark.value ≠ some frag.content.length := by decide
  revert hvalue
  generalize alignedFrags archRv32ic true oddOps 3 0 = frags
  induction frags with
  | nil => exact fun _ => trivial
  | cons frag frags ih =>
    intro hvalue
    refine ⟨?_, ih fun frag' hmem => hvalue frag' (List.mem_cons_of_mem _ hmem)⟩
    intro symbol hlast _ hends
    exact absurd (by rw [hlast, Option.map_some, hends]) (hvalue frag List.mem_cons_self)

theorem remainingSymbols_describe_odd :
    Describes (sectionBytes (assembledFrags archRv32ic true oddOps 3 0))
      (remainingSymbols (assembledFrags archRv32ic true oddOps 3 0)) :=
  remainingSymbols_describe archRv32ic true oddOps 3 0 oddOps_marked oddOps_kept

/-- An alignment at the start that pads nothing, data, and an instruction. -/
def lostOps : List MapOp := [.alignCode 2 0 0, .data [.bytes 4], .insn [.bytes 4] (by decide)]

/-- The `$xrv…` of the alignment gives way to `$d`, and the instruction has only `$x`. -/
theorem remainingSymbols_lost :
    remainingSymbols (assembledFrags archRv32ic true lostOps 2 0) = [⟨dataName, 0⟩, ⟨insnName, 4⟩] ∧
    ¬ Describes (sectionBytes (assembledFrags archRv32ic true lostOps 2 0))
      (remainingSymbols (assembledFrags archRv32ic true lostOps 2 0)) := by
  have hsymbols : remainingSymbols (assembledFrags archRv32ic true lostOps 2 0) =
      [⟨dataName, 0⟩, ⟨insnName, 4⟩] := by decide
  refine ⟨hsymbols, ?_⟩
  intro h
  obtain ⟨symbol, hlast, -⟩ := h.arch 4 archRv32ic.text (by decide)
  have hnone : ([⟨dataName, 0⟩, ⟨insnName, 4⟩] : List MapSymbol).filter (fun symbol => isArchName symbol.name) =
    [] := by
    decide
  rw [hsymbols, hnone] at hlast
  cases hlast.mem

end RiscvBinutils.Gas
