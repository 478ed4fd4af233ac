/-
What the mapping symbols of the frags say while the source is read and when the alignments are
filled. A frag is seen as a sequence of bytes and marks; every byte is right under the view of the
marks before it, except that some marks of other frags are still at the same address.
-/
import RiscvBinutils.Gas.Mapping

namespace RiscvBinutils.Gas

open RiscvBinutils.Base RiscvBinutils.Opcode

/-! ## The view of a reader -/

/-- A byte or a mapping symbol in front of it. -/
abbrev MapEvent := Event (List Char) ByteKind

/-- What a reader knows: the state, and the architecture of the last `$xrv…`. -/
structure MapView where
  cur : MapState
  arch : Option (List Char)

def MapView.see (v : MapView) (name : List Char) : MapView :=
  if name = dataName then { v with cur := .mapData }
  else if isArchName name then ⟨.mapInsn, some (name.drop 2)⟩
  else { v with cur := .mapInsn }

/-- The view is right for the byte. -/
def Shows (v : MapView) : ByteKind → Prop
  | .data | .oddPadding => v.cur = .mapData
  | .nop => v.cur = .mapInsn
  | .insn arch => v.cur = .mapInsn ∧ v.arch = some arch

/-- All marks are mapping symbols. -/
def Named (es : List MapEvent) : Prop := ∀ n, .mark n ∈ es → riscvElfIsMappingSymbols n = true

section View

variable {v : MapView} {n n' : List Char}

theorem see_data (v : MapView) : v.see dataName = { v with cur := .mapData } := if_pos rfl

theorem see_insn (v : MapView) : v.see insnName = { v with cur := .mapInsn } := by
  rw [MapView.see, if_neg (by decide), isArchName_insnName]
  rfl

theorem see_arch (h : isArchName n = true) : v.see n = ⟨.mapInsn, some (n.drop 2)⟩ := by
  rw [MapView.see, if_neg (isArchName_ne h).1, if_pos h]

/-- A name that is not an architecture is forgotten at the next one. -/
theorem see_see (h : isArchName n = true → isArchName n' = true) : (v.see n).see n' = v.see n' := by
  by_cases harch : isArchName n = true
  · rw [see_arch (h harch), see_arch (h harch)]
  · by_cases hdata : n = dataName
    · rw [hdata, see_data]
      unfold MapView.see
      dsimp only
    · have hsee : v.see n = { v with cur := .mapInsn } := by
        rw [MapView.see, if_neg hdata, if_neg harch]
      rw [hsee]
      unfold MapView.see
      dsimp only

theorem see_cur (v : MapView) (name : List Char) : (v.see name).cur = stateOfName name := by
  unfold MapView.see stateOfName
  split
  · rfl
  · split <;> rfl

theorem isArchName_append {arch : ArchStr} : isArchName (insnName ++ arch.text) = true := by
  obtain ⟨rest, hrest⟩ := arch.rv
  unfold isArchName
  rw [List.isPrefixOf_iff_prefix, ← hrest]
  exact ⟨rest, rfl⟩

theorem insnName_append_drop (h : isArchName n = true) : insnName ++ n.drop 2 = n := by
  obtain ⟨rest, rfl⟩ := List.isPrefixOf_iff_prefix.mp h
  rfl

/-- A mapping symbol that is not `$d` or an architecture is `$x`. -/
theorem eq_insnName (h : riscvElfIsMappingSymbols n = true) (hdata : n ≠ dataName) (harch : isArchName n = false) :
    n = insnName := by
  unfold riscvElfIsMappingSymbols at h
  simpa [hdata, harch] using h

end View

/-! ## A frag as a sequence -/

/-- The mark at the start. -/
def startMark : List MapEvent → Option MapSymbol
  | .mark n :: _ => some ⟨n, 0⟩
  | _ => none

/-- The pointer to a symbol `$x` at the start that is not in the table any more. -/
def deadSymbol (dead : Bool) : Option MapSymbol := if dead then some ⟨insnName, 0⟩ else none

/-- The frag holds the sequence; with `dead`, its first symbol was removed from another frag. -/
structure FragHolds (dead : Bool) (frag : Frag) (es : List MapEvent) : Prop where
  content : frag.content = bytesOf es
  symbols : frag.symbols = marksFrom 0 es
  first : frag.firstMapSymbol = (deadSymbol dead).or (startMark es)
  last : frag.lastMapSymbol = (marksFrom 0 es).getLast?.or (deadSymbol dead)
  apart : MarksApart es
  named : Named es

/-- Without a mark at the end. -/
def dropMark (es : List MapEvent) : List MapEvent :=
  match es.getLast? with
  | some (.mark _) => es.dropLast
  | _ => es

section Sequence

variable {frag : Frag} {es init : List MapEvent} {n m : List Char} {v : MapView}

theorem holds_empty : FragHolds false {} [] :=
  ⟨rfl, rfl, rfl, rfl, List.IsChain.nil, fun _ h => by cases h⟩

theorem dropMark_mark (init : List MapEvent) (m : List Char) : dropMark (init ++ [Event.mark m]) = init := by
  rw [dropMark, List.getLast?_concat]
  exact List.dropLast_concat

theorem dropMark_byte (init : List MapEvent) (b : ByteKind) :
    dropMark (init ++ [Event.byte b]) = init ++ [Event.byte b] := by
  rw [dropMark, List.getLast?_concat]

theorem bytesOf_dropMark (es : List MapEvent) : bytesOf (dropMark es) = bytesOf es := by
  rcases List.eq_nil_or_concat' es with rfl | ⟨init, e, rfl⟩
  · rfl
  · cases e with
    | mark m => rw [dropMark_mark, bytesOf_concat_mark]
    | byte b => rw [dropMark_byte]

/-- Before a mark there is a byte, or nothing. -/
theorem apart_before_mark (h : MarksApart (init ++ [Event.mark m])) (n : List Char) :
    MarksApart (init ++ [Event.mark n]) := by
  obtain ⟨hinit, -, hends⟩ := List.isChain_append.mp h
  refine List.isChain_append.mpr ⟨hinit, List.IsChain.singleton _, ?_⟩
  intro e he e' he'
  have hdisj := hends e he (.mark m) rfl
  cases hdisj with
  | inl hbyte => exact .inl hbyte
  | inr hbyte => cases hbyte

/-- At the start of a frag a mark is alone. -/
theorem apart_init_nil (h : MarksApart (init ++ [Event.mark m])) (hlen : (bytesOf init).length = 0) :
    init = [] := by
  rcases List.eq_nil_or_concat' init with rfl | ⟨init', e, rfl⟩
  · rfl
  · cases e with
    | byte b =>
      rw [bytesOf_append, List.length_append] at hlen
      cases hlen
    | mark m' =>
      obtain ⟨-, -, hends⟩ := List.isChain_append.mp h
      have hdisj := hends (.mark m') (by simp) (.mark m) rfl
      rcases hdisj with hbyte | hbyte <;> cases hbyte

theorem apart_dropMark_mark (h : MarksApart es) (n : List Char) : MarksApart (dropMark es ++ [Event.mark n]) := by
  rcases List.eq_nil_or_concat' es with rfl | ⟨init, e, rfl⟩
  · exact List.IsChain.singleton _
  · cases e with
    | mark m =>
      rw [dropMark_mark]
      exact apart_before_mark h n
    | byte b =>
      rw [dropMark_byte]
      refine List.isChain_append.mpr ⟨h, List.IsChain.singleton _, ?_⟩
      intro e he e' he'
      rw [List.getLast?_concat] at he
      cases he
      exact .inl rfl

theorem Named.dropMark (h : Named es) : Named (dropMark es) := by
  intro m hm
  apply h m
  unfold Gas.dropMark at hm
  split at hm
  · exact (List.dropLast_sublist es).subset hm
  · exact hm

/-- What a symbol at the end replaces. -/
theorem addSymbol_end (h : FragHolds false frag es) (n : List Char) :
    (frag.addSymbol ⟨n, (bytesOf es).length⟩).2 =
      if es.getLast?.any Event.isMark then (marksFrom 0 es).getLast? else none := by
  unfold Frag.addSymbol
  dsimp only
  rw [h.first, h.last]
  simp only [deadSymbol, Bool.false_eq_true, if_false, Option.none_or, Option.or_none]
  rcases List.eq_nil_or_concat' es with rfl | ⟨init, e, rfl⟩
  · rfl
  · rw [List.getLast?_concat]
    cases e with
    | mark m =>
      have hmarks : (marksFrom 0 (init ++ [Event.mark m])).getLast? = some ⟨m, (bytesOf init).length⟩ := by
        rw [marksFrom_concat_mark, List.getLast?_concat, Nat.zero_add]
      rw [hmarks, bytesOf_concat_mark]
      by_cases hlen : (bytesOf init).length = 0
      · obtain rfl := apart_init_nil h.apart hlen
        rfl
      · rw [if_neg hlen]
        simp [Event.isMark]
    | byte b =>
      have hlen : ¬ (bytesOf (init ++ [Event.byte b])).length = 0 := by
        rw [length_bytesOf_concat_byte]
        exact Nat.succ_ne_zero _
      rw [if_neg hlen]
      cases hlast : (marksFrom 0 (init ++ [Event.byte b])).getLast? with
      | none => rfl
      | some last =>
        have hmem := List.mem_of_getLast? hlast
        rw [marksFrom_concat_byte] at hmem
        have hrange := marksFrom_range hmem
        have hne : ¬ last.value = (bytesOf (init ++ [Event.byte b])).length := by
          rw [length_bytesOf_concat_byte]
          omega
        rw [Option.filter_some, decide_eq_false hne]
        rfl

/-- The sequence with the symbol at its end. -/
theorem marks_dropMark_mark (n : List Char) :
    marksFrom 0 (dropMark es ++ [Event.mark n]) = marksFrom 0 (dropMark es) ++ [⟨n, (bytesOf es).length⟩] := by
  rw [marksFrom_concat_mark, Nat.zero_add, bytesOf_dropMark]

theorem startMark_dropMark (h : MarksApart es) (n : List Char) :
    startMark (dropMark es ++ [Event.mark n]) = if (bytesOf es).length = 0 then some ⟨n, 0⟩ else startMark es := by
  rcases List.eq_nil_or_concat' es with rfl | ⟨init, e, rfl⟩
  · rfl
  · cases e with
    | mark m =>
      rw [dropMark_mark, bytesOf_concat_mark]
      by_cases hlen : (bytesOf init).length = 0
      · obtain rfl := apart_init_nil h hlen
        rfl
      · rw [if_neg hlen]
        cases init with
        | nil => exact absurd rfl hlen
        | cons e init => cases e <;> rfl
    | byte b =>
      have hlen : ¬ (bytesOf (init ++ [Event.byte b])).length = 0 := by
        rw [length_bytesOf_concat_byte]
        exact Nat.succ_ne_zero _
      rw [dropMark_byte, if_neg hlen]
      cases init with
      | nil => rfl
      | cons e init => cases e <;> rfl

/-- The frag without a symbol that was replaced, if one was. -/
def Frag.settle (frag : Frag) (removed : Option MapSymbol) : Frag := removed.elim frag frag.symbolRemove

/-- Only the symbols change. -/
theorem Frag.settle_frame (frag : Frag) (removed : Option MapSymbol) :
    (frag.settle removed).content = frag.content ∧ (frag.settle removed).firstMapSymbol = frag.firstMapSymbol ∧
      (frag.settle removed).lastMapSymbol = frag.lastMapSymbol := by
  cases removed <;> exact ⟨rfl, rfl, rfl⟩

theorem makeMappingSymbol_eq (state : MapState) (value : Nat) (frag : Frag) (archStr : Option (List Char)) :
    makeMappingSymbol state value frag archStr =
      (frag.addSymbol ⟨mapName state archStr, value⟩).1.settle (frag.addSymbol ⟨mapName state archStr, value⟩).2 := by
  unfold makeMappingSymbol Frag.settle
  dsimp only
  cases (frag.addSymbol ⟨mapName state archStr, value⟩).2 <;> rfl

/-- `make_mapping_symbol` at the end of a frag. -/
theorem holds_make (h : FragHolds false frag es) (state : MapState) (archStr : Option (List Char))
    (hname : riscvElfIsMappingSymbols (mapName state archStr) = true) :
    FragHolds false (makeMappingSymbol state frag.content.length frag archStr)
      (dropMark es ++ [Event.mark (mapName state archStr)]) := by
  rw [h.content, makeMappingSymbol_eq, addSymbol_end h]
  -- whether the table has the symbol that is replaced
  have hsymbols : ((frag.addSymbol ⟨mapName state archStr, (bytesOf es).length⟩).1.settle
      (if es.getLast?.any Event.isMark then (marksFrom 0 es).getLast? else none)).symbols =
      marksFrom 0 (dropMark es ++ [Event.mark (mapName state archStr)]) := by
    rw [marks_dropMark_mark]
    rcases List.eq_nil_or_concat' es with rfl | ⟨init, e, rfl⟩
    · show frag.symbols ++ [_] = _
      rw [h.symbols]
      rfl
    · rw [List.getLast?_concat]
      cases e with
      | mark m =>
        have hmarks : marksFrom 0 (init ++ [Event.mark m]) =
            marksFrom 0 init ++ [⟨m, 0 + (bytesOf init).length⟩] := marksFrom_concat_mark 0 init m
        rw [hmarks, dropMark_mark]
        simp only [Option.any_some, Event.isMark, if_true, List.getLast?_concat]
        show (frag.symbols ++ [_]).erase _ = _
        rw [h.symbols, hmarks, List.append_assoc, List.erase_append_right _ h.apart.last_not_mem]
        simp
      | byte b =>
        rw [dropMark_byte]
        show frag.symbols ++ [_] = _
        rw [h.symbols]
  obtain ⟨hcontent, hfirst, hlast⟩ := Frag.settle_frame
    (frag.addSymbol ⟨mapName state archStr, (bytesOf es).length⟩).1
    (if es.getLast?.any Event.isMark then (marksFrom 0 es).getLast? else none)
  refine ⟨?_, hsymbols, ?_, ?_, apart_dropMark_mark h.apart _, ?_⟩
  · rw [bytesOf_append, bytesOf_dropMark, bytesOf_mark, List.append_nil, hcontent]
    exact h.content
  · rw [hfirst]
    show (if (bytesOf es).length = 0 then some (⟨_, (bytesOf es).length⟩ : MapSymbol) else frag.firstMapSymbol) = _
    rw [startMark_dropMark h.apart, h.first]
    by_cases hlen : (bytesOf es).length = 0
    · rw [if_pos hlen, if_pos hlen, hlen]
      rfl
    · rw [if_neg hlen, if_neg hlen]
  · rw [marks_dropMark_mark, List.getLast?_concat, hlast]
    rfl
  · intro m hm
    rcases List.mem_append.mp hm with hmem | hmem
    · exact h.named.dropMark m hmem
    · cases hmem with
      | head => exact hname
      | tail _ hnil => cases hnil

theorem holds_bytes {dead : Bool} (h : FragHolds dead frag es) (bs : List ByteKind) :
    FragHolds dead { frag with content := frag.content ++ bs } (es ++ bs.map .byte) := by
  have hmarks : marksFrom 0 (es ++ bs.map .byte) = marksFrom 0 es := by
    rw [marksFrom_append, marksFrom_bytes, List.append_nil]
  have hstart : startMark (es ++ bs.map .byte) = startMark es := by
    cases es with
    | nil => cases bs <;> rfl
    | cons e es => cases e <;> rfl
  refine ⟨?_, ?_, ?_, ?_, h.apart.append_bytes bs, ?_⟩
  · rw [bytesOf_append, bytesOf_bytes, ← h.content]
  · rw [hmarks]
    exact h.symbols
  · rw [hstart]
    exact h.first
  · rw [hmarks]
    exact h.last
  · intro m hm
    rcases List.mem_append.mp hm with hmem | hmem
    · exact h.named m hmem
    · obtain ⟨b, -, hb⟩ := List.mem_map.mp hmem
      cases hb

end Sequence

/-! ## Reading the source -/

/-- The view behind a sequence. -/
abbrev seeAll (v : MapView) (es : List MapEvent) : MapView := viewAfter MapView.see v es

/-- Every byte is right under its view. -/
abbrev ReadsRight (v : MapView) (es : List MapEvent) : Prop := Good MapView.see Shows v es

/-- The view that the padding of a frag needs. -/
def FragType.Fits : FragType → MapView → Prop
  | .rsFill, _ => True
  | .rsAlign _ _, v => v.cur = .mapData
  | .rsAlignCode _ _, v => v.cur = .mapInsn

/-- The frags one after the other. -/
def GoodFrags (v : MapView) : List (FragType × List MapEvent) → Prop
  | [] => True
  | (type, es) :: frags => ReadsRight v es ∧ type.Fits (seeAll v es) ∧ GoodFrags (seeAll v es) frags

/-- The view behind them. -/
def seeFrags (v : MapView) (frags : List (FragType × List MapEvent)) : MapView :=
  frags.foldl (fun v frag => seeAll v frag.2) v

theorem goodFrags_snoc {v : MapView} {frags : List (FragType × List MapEvent)} {type : FragType} {es : List MapEvent} :
    GoodFrags v (frags ++ [(type, es)]) ↔ GoodFrags v frags ∧ ReadsRight (seeFrags v frags) es ∧
      type.Fits (seeAll (seeFrags v frags) es) := by
  induction frags generalizing v with
  | nil =>
    constructor
    · rintro ⟨hgood, hfits, -⟩
      exact ⟨trivial, hgood, hfits⟩
    · rintro ⟨-, hgood, hfits⟩
      exact ⟨hgood, hfits, trivial⟩
  | cons frag frags ih =>
    constructor
    · rintro ⟨hgood, hfits, hrest⟩
      obtain ⟨hrest, hlast⟩ := ih.mp hrest
      exact ⟨⟨hgood, hfits, hrest⟩, hlast⟩
    · rintro ⟨⟨hgood, hfits, hrest⟩, hlast⟩
      exact ⟨hgood, hfits, ih.mpr ⟨hrest, hlast⟩⟩

theorem seeFrags_snoc (v : MapView) (frags : List (FragType × List MapEvent)) (frag : FragType × List MapEvent) :
    seeFrags v (frags ++ [frag]) = seeAll (seeFrags v frags) frag.2 := by
  rw [seeFrags, List.foldl_append]
  rfl

/-- Before the section. -/
def startView : MapView := ⟨.mapNone, none⟩

/-- The view that the assembler has of the section. -/
def SegState.view (s : SegState) : MapView := ⟨s.mapState, s.archMapSymbol.map fun symbol => symbol.name.drop 2⟩

/-- A mark at the end is `$d`. -/
def EndsInData (es : List MapEvent) : Prop := ∀ n, es.getLast? = some (.mark n) → n = dataName

/-- The frags hold sequences whose bytes are right, and behind them is the assembler's view. -/
structure FragsRight (s : SegState) (frags : List (FragType × List MapEvent)) (now : List MapEvent) : Prop where
  closed : List.Forall₂ (fun frag p => frag.type = p.1 ∧ FragHolds false frag p.2) s.closed frags
  holds : FragHolds false s.fragNow now
  good : GoodFrags startView frags
  goodNow : ReadsRight (seeFrags startView frags) now
  view : seeAll (seeFrags startView frags) now = s.view

section Source

variable {s : SegState} {frags : List (FragType × List MapEvent)} {now : List MapEvent}

theorem seeAll_dropMark (h : EndsInData now) (v : MapView) (n : List Char) :
    (seeAll v (dropMark now)).see n = (seeAll v now).see n := by
  rcases List.eq_nil_or_concat' now with rfl | ⟨init, e, rfl⟩
  · rfl
  · cases e with
    | byte b => rw [dropMark_byte]
    | mark m =>
      obtain rfl : m = dataName := h m (List.getLast?_concat)
      rw [dropMark_mark, seeAll, seeAll, viewAfter_append]
      have hforget : isArchName dataName = true → isArchName n = true := by
        rw [isArchName_dataName]
        exact fun hfalse => by cases hfalse
      exact (see_see hforget).symm

theorem readsRight_dropMark {v : MapView} (h : ReadsRight v now) : ReadsRight v (dropMark now) := by
  rcases List.eq_nil_or_concat' now with rfl | ⟨init, e, rfl⟩
  · exact h
  · cases e with
    | byte b =>
      rw [dropMark_byte]
      exact h
    | mark m =>
      rw [dropMark_mark]
      exact (good_append.mp h).1

/-- A symbol is made for the state. -/
theorem fragsRight_make (h : FragsRight s frags now) (hends : EndsInData now) {toState : MapState}
    {archStr : Option (List Char)} {archMapSymbol : Option MapSymbol}
    (hname : riscvElfIsMappingSymbols (mapName toState archStr) = true)
    (hview : s.view.see (mapName toState archStr) =
      ⟨toState, archMapSymbol.map fun symbol => symbol.name.drop 2⟩) :
    FragsRight { s with
        mapState := toState
        fragNow := makeMappingSymbol toState s.fragNow.content.length s.fragNow archStr
        archMapSymbol } frags (dropMark now ++ [Event.mark (mapName toState archStr)]) := by
  refine ⟨h.closed, holds_make h.holds toState archStr hname, h.good, ?_, ?_⟩
  · exact good_append.mpr ⟨readsRight_dropMark h.goodNow, trivial⟩
  · rw [seeAll, viewAfter_append]
    show (seeAll _ (dropMark now)).see _ = _
    rw [seeAll_dropMark hends, h.view, hview]
    rfl

/-- `riscv_mapping_state`: the view is of the state, and in front of an instruction it has the architecture. -/
theorem fragsRight_mapping (h : FragsRight s frags now) (hends : EndsInData now) (toState : MapState)
    (hto : toState ≠ .mapNone) (frAlignCode : Bool) :
    ∃ now', FragsRight (riscvMappingState s toState frAlignCode) frags now' ∧
      (riscvMappingState s toState frAlignCode).mapState = toState ∧
      (toState = .mapInsn → frAlignCode = false →
        (riscvMappingState s toState frAlignCode).view.arch = some s.arch.text) ∧
      (toState = .mapData → EndsInData now') ∧
      (riscvMappingState s toState frAlignCode).closed = s.closed := by
  have hplain (hne : s.mapState ≠ toState) : ∃ now', FragsRight { s with
        mapState := toState
        fragNow := makeMappingSymbol toState s.fragNow.content.length s.fragNow none } frags now' ∧
      (toState = .mapData → EndsInData now') := by
    refine ⟨_, @fragsRight_make s frags now h hends toState none s.archMapSymbol ?_ ?_, ?_⟩
    · cases toState with
      | mapNone => exact absurd rfl hto
      | mapData => decide
      | mapInsn => decide
    · cases toState with
      | mapNone => exact absurd rfl hto
      | mapData => exact see_data _
      | mapInsn => exact see_insn _
    · rintro rfl n hn
      rw [List.getLast?_concat] at hn
      cases hn
      rfl
  have harch (hinsn : toState = .mapInsn) : FragsRight { s with
        mapState := toState
        fragNow := makeMappingSymbol toState s.fragNow.content.length s.fragNow (some s.arch.text)
        archMapSymbol := some ⟨mapName toState (some s.arch.text), s.fragNow.content.length⟩ } frags
      (dropMark now ++ [Event.mark (mapName toState (some s.arch.text))]) := by
    subst hinsn
    have hname : isArchName (mapName .mapInsn (some s.arch.text)) = true := isArchName_append
    refine fragsRight_make h hends ?_ (see_arch hname)
    rw [riscvElfIsMappingSymbols, hname, Bool.or_true]
  unfold riscvMappingState
  dsimp only
  split
  · split
    · rename_i hinsn
      refine ⟨_, harch hinsn, rfl, ?_, ?_, rfl⟩
      · rintro rfl -
        rfl
      · rintro rfl
        cases hinsn
    · rename_i hinsn
      split
      · rename_i hsame
        exact ⟨now, h, hsame, fun hto => absurd hto hinsn, fun _ => hends, rfl⟩
      · rename_i hne
        obtain ⟨now', hright, hdata⟩ := hplain hne
        exact ⟨now', hright, rfl, fun hto => absurd hto hinsn, hdata, rfl⟩
  · rename_i segArchSymbol hsymbol
    split
    · rename_i hcond
      refine ⟨_, harch hcond.1, rfl, ?_, ?_, rfl⟩
      · rintro rfl -
        rfl
      · rintro rfl
        cases hcond.1
    · rename_i hcond
      -- the architecture is that of the last symbol
      have hsameArch (hinsn : toState = .mapInsn) (hcode : frAlignCode = false) :
          s.archMapSymbol.map (fun symbol => symbol.name.drop 2) = some s.arch.text := by
        rw [hsymbol, Option.map_some]
        by_contra hne
        exact hcond ⟨hinsn, hcode, fun heq => hne (congrArg some heq.symm)⟩
      split
      · rename_i hsame
        exact ⟨now, h, hsame, hsameArch, fun _ => hends, rfl⟩
      · rename_i hne
        obtain ⟨now', hright, hdata⟩ := hplain hne
        exact ⟨now', hright, rfl, hsameArch, hdata, rfl⟩

theorem fragsRight_new (h : FragsRight s frags now) (type : FragType) (hfits : type.Fits s.view) :
    FragsRight (fragNew s type) (frags ++ [(type, now)]) [] := by
  refine ⟨?_, holds_empty, goodFrags_snoc.mpr ⟨h.good, h.goodNow, h.view ▸ hfits⟩, trivial, ?_⟩
  · have hnow : FragHolds false { s.fragNow with type } now :=
      ⟨h.holds.content, h.holds.symbols, h.holds.first, h.holds.last, h.holds.apart, h.holds.named⟩
    exact List.rel_append h.closed (List.Forall₂.cons ⟨rfl, hnow⟩ List.Forall₂.nil)
  · rw [seeFrags_snoc]
    exact h.view

/-- Bytes and new frags; behind a byte no mark is at the end. -/
theorem fragsRight_emit (kind : ByteKind) (pieces : List Piece) (h : FragsRight s frags now)
    (hshows : Shows s.view kind) (hends : (pieces.map Piece.size).sum = 0 → EndsInData now) :
    ∃ frags' now', FragsRight (emitPieces kind s pieces) frags' now' ∧ EndsInData now' ∧
      (emitPieces kind s pieces).view = s.view := by
  induction pieces generalizing s frags now with
  | nil => exact ⟨frags, now, h, hends rfl, rfl⟩
  | cons piece pieces ih =>
    cases piece with
    | newFrag =>
      exact ih (fragsRight_new h .rsFill trivial) hshows (fun _ n hn => by cases hn)
    | bytes n =>
      have hright : FragsRight (emitPiece kind s (.bytes n)) frags (now ++ (List.replicate n kind).map .byte) := by
        refine ⟨h.closed, holds_bytes h.holds _, h.good, ?_, ?_⟩
        · refine good_append.mpr ⟨h.goodNow, good_bytes ?_⟩
          intro b hb
          rw [List.eq_of_mem_replicate hb]
          show Shows (seeAll _ now) kind
          rw [h.view]
          exact hshows
        · rw [seeAll, viewAfter_append, viewAfter_bytes]
          exact h.view
      refine ih hright hshows ?_
      intro hrest
      cases n with
      | zero =>
        rw [List.replicate_zero, List.map_nil, List.append_nil]
        apply hends
        rw [List.map_cons, List.sum_cons, hrest]
        rfl
      | succ n =>
        intro m hm
        rw [List.replicate_succ', List.map_append, List.map_singleton, ← List.append_assoc, List.getLast?_concat] at hm
        cases hm

theorem fragsRight_grow (h : FragsRight s frags now) (hends : EndsInData now) (n : Nat) :
    ∃ frags' now', FragsRight (fragGrow s n) frags' now' ∧ EndsInData now' ∧ (fragGrow s n).view = s.view := by
  unfold fragGrow
  induction n generalizing s frags now with
  | zero => exact ⟨frags, now, h, hends, rfl⟩
  | succ n ih => exact ih (fragsRight_new h .rsFill trivial) (fun n hn => by cases hn)

/-- A frag of an alignment. -/
theorem fragsRight_align (h : FragsRight s frags now) (hends : EndsInData now) (toState : MapState)
    (hto : toState ≠ .mapNone) (frAlignCode : Bool) (grown : Nat) (type : FragType)
    (hfits : ∀ v : MapView, v.cur = toState → type.Fits v) :
    ∃ frags', FragsRight (fragNew (riscvMappingState (fragGrow s grown) toState frAlignCode) type) frags' [] := by
  obtain ⟨frags', now', hgrown, hends', -⟩ := fragsRight_grow h hends grown
  obtain ⟨now'', hright, hstate, -⟩ := fragsRight_mapping hgrown hends' toState hto frAlignCode
  exact ⟨_, fragsRight_new hright type (hfits _ hstate)⟩

/-- What an operation keeps. -/
theorem fragsRight_op (h : FragsRight s frags now) (hends : EndsInData now) (op : MapOp) :
    ∃ frags' now', FragsRight (applyOp s op) frags' now' ∧ EndsInData now' := by
  cases op with
  | insn pieces emits =>
    obtain ⟨now', hright, hstate, harch, -⟩ := fragsRight_mapping h hends .mapInsn (by decide) false
    obtain ⟨frags', now'', hright', hends', -⟩ := fragsRight_emit (.insn s.arch.text) pieces hright
      ⟨hstate, harch rfl rfl⟩ (fun hzero => by omega)
    exact ⟨frags', now'', hright', hends'⟩
  | data pieces =>
    obtain ⟨now', hright, hstate, -, hdata, -⟩ :=
      fragsRight_mapping h hends .mapData (by decide) false
    obtain ⟨frags', now'', hright', hends', -⟩ := fragsRight_emit .data pieces hright hstate (fun _ => hdata rfl)
    exact ⟨frags', now'', hright', hends'⟩
  | alignCode n max grown =>
    unfold applyOp
    by_cases hsmall : 2 ^ n ≤ (if s.rvc then 2 else 4)
    · dsimp only
      rw [if_pos hsmall]
      exact ⟨frags, now, h, hends⟩
    · dsimp only
      rw [if_neg hsmall]
      obtain ⟨frags', hright⟩ := fragsRight_align h hends .mapInsn (by decide) true grown
        (.rsAlignCode n max) (fun _ hv => hv)
      exact ⟨frags', [], hright, fun n hn => by cases hn⟩
  | align n max grown =>
    unfold applyOp
    dsimp only
    split
    · exact ⟨frags, now, h, hends⟩
    · obtain ⟨frags', hright⟩ := fragsRight_align h hends .mapData (by decide) false grown (.rsAlign n max)
        (fun _ hv => hv)
      exact ⟨frags', [], hright, fun n hn => by cases hn⟩
  | optionArch arch rvc => exact ⟨frags, now, ⟨h.closed, h.holds, h.good, h.goodNow, h.view⟩, hends⟩

/-- The whole source. -/
theorem fragsRight_run (arch : ArchStr) (rvc : Bool) (ops : List MapOp) :
    ∃ frags now, FragsRight (ops.foldl applyOp { arch, rvc }) frags now ∧ EndsInData now := by
  induction ops using List.reverseRecOn with
  | nil => exact ⟨[], [], ⟨.nil, holds_empty, trivial, trivial, rfl⟩, fun n hn => by cases hn⟩
  | append_singleton ops op ih =>
    obtain ⟨frags, now, hright, hends⟩ := ih
    rw [List.foldl_append]
    exact fragsRight_op hright hends op

/-- The frags of the section: the last one is empty. -/
theorem fragsRight_finish (arch : ArchStr) (rvc : Bool) (ops : List MapOp) (alignment grown : Nat) :
    ∃ frags, List.Forall₂ (fun frag p => frag.type = p.1 ∧ FragHolds false frag p.2)
        (subsegsFinish (ops.foldl applyOp { arch, rvc }) alignment grown) (frags ++ [(.rsFill, [])]) ∧
      GoodFrags startView (frags ++ [(.rsFill, [])]) := by
  obtain ⟨frags, now, hright, hends⟩ := fragsRight_run arch rvc ops
  obtain ⟨frags', hfinish⟩ := fragsRight_align hright hends .mapInsn (by decide) true grown
    (.rsAlignCode alignment 0) (fun _ hv => hv)
  refine ⟨frags', List.rel_append hfinish.closed (List.Forall₂.cons ⟨rfl, holds_empty⟩ .nil), ?_⟩
  exact goodFrags_snoc.mpr ⟨hfinish.good, trivial, trivial⟩

end Source

/-! ## Filling the alignments -/

/-- Every odd padding begins at a mapping symbol. -/
def OddPaddingMarked (frags : List Frag) : Prop :=
  ∀ frag ∈ frags, ∀ alignment max : Nat, frag.type = .rsAlignCode alignment max →
    frag.type.padding (frag.address + frag.content.length) % 2 = 1 →
    ∃ symbol, frag.lastMapSymbol = some symbol ∧ symbol.value = frag.content.length

/-- The frags hold the sequences, one behind the other from `address` on. -/
inductive PlacedFrags : Nat → List Frag → List (List MapEvent) → Prop
  | nil {address : Nat} : PlacedFrags address [] []
  | cons {address : Nat} {frag : Frag} {frags : List Frag} {es : List MapEvent} {ess : List (List MapEvent)}
    (haddress : frag.address = address) (hholds : FragHolds false frag es)
    (hrest : PlacedFrags (address + (bytesOf es).length) frags ess) : PlacedFrags address (frag :: frags) (es :: ess)

section Fill

variable {frag : Frag} {es : List MapEvent} {v : MapView}

/-- A symbol of the frag's end is the last mark. -/
theorem ends_mark (h : FragHolds false frag es) {symbol : MapSymbol} (hlast : frag.lastMapSymbol = some symbol)
    (hvalue : symbol.value = frag.content.length) :
    ∃ init, es = init ++ [Event.mark symbol.name] ∧ frag.content = bytesOf init := by
  rw [h.last, deadSymbol, if_neg (by decide), Option.or_none] at hlast
  rcases List.eq_nil_or_concat' es with rfl | ⟨init, e, rfl⟩
  · cases hlast
  · cases e with
    | mark m =>
      have hsymbol : (⟨m, 0 + (bytesOf init).length⟩ : MapSymbol) = symbol := by
        rw [marksFrom_concat_mark, List.getLast?_concat] at hlast
        exact Option.some.inj hlast
      refine ⟨init, by rw [← hsymbol], ?_⟩
      rw [h.content, bytesOf_concat_mark]
    | byte b =>
      have hmem := List.mem_of_getLast? hlast
      rw [marksFrom_concat_byte] at hmem
      have hrange := marksFrom_range hmem
      rw [h.content, length_bytesOf_concat_byte] at hvalue
      omega

/-- The name behind the byte is the one that was removed. -/
theorem mapName_again {m : List Char} (hname : riscvElfIsMappingSymbols m = true) (hm : m ≠ dataName) :
    mapName .mapInsn (if isArchName m then some (m.drop 2) else none) = m := by
  by_cases harch : isArchName m = true
  · rw [if_pos harch]
    exact insnName_append_drop harch
  · rw [if_neg harch]
    exact (eq_insnName hname hm (by simpa using harch)).symm

theorem makeOddMappingSymbol_frame (frag : Frag) (value : Nat) :
    (makeOddMappingSymbol .mapData value frag none).content = frag.content ∧
      (makeOddMappingSymbol .mapData value frag none).address = frag.address := by
  unfold makeOddMappingSymbol makeMappingSymbol Frag.addSymbol Frag.symbolRemove
  dsimp only
  split
  · exact ⟨rfl, rfl⟩
  · split <;> exact ⟨rfl, rfl⟩

/-- At the end of a frag the symbol there is moved behind the byte, and `$d` takes its place. -/
theorem makeOddMappingSymbol_end {m : List Char} (hname : riscvElfIsMappingSymbols m = true) (hm : m ≠ dataName)
    (hremoved : (frag.addSymbol ⟨dataName, frag.content.length⟩).2 = some ⟨m, frag.content.length⟩) :
    makeOddMappingSymbol .mapData frag.content.length frag none =
      { frag with
        symbols := (frag.symbols ++ [(⟨dataName, frag.content.length⟩ : MapSymbol), ⟨m, frag.content.length + 1⟩]).erase
          ⟨m, frag.content.length⟩
        firstMapSymbol := if frag.content.length = 0 then some ⟨dataName, frag.content.length⟩ else frag.firstMapSymbol
        lastMapSymbol := some ⟨m, frag.content.length + 1⟩ } := by
  have hfree : ((frag.addSymbol ⟨dataName, frag.content.length⟩).1.addSymbol ⟨m, frag.content.length + 1⟩).2 =
      none := by
    simp [Frag.addSymbol, Option.filter]
  have hinsn : makeMappingSymbol .mapInsn (frag.content.length + 1) (frag.addSymbol ⟨dataName, frag.content.length⟩).1
      (if isArchName m then some (m.drop 2) else none) =
        ((frag.addSymbol ⟨dataName, frag.content.length⟩).1.addSymbol ⟨m, frag.content.length + 1⟩).1 := by
    unfold makeMappingSymbol
    rw [mapName_again hname hm]
    dsimp only
    rw [hfree]
  have hdata : mapName .mapData none = dataName := rfl
  have hcontent : (frag.addSymbol ⟨dataName, frag.content.length⟩).1.content = frag.content := rfl
  unfold makeOddMappingSymbol
  dsimp only
  rw [hdata, hremoved]
  dsimp only
  rw [hcontent, hinsn]
  simp [Frag.addSymbol, Frag.symbolRemove]

theorem apart_odd {init : List MapEvent} {m : List Char} (h : MarksApart (init ++ [Event.mark m])) :
    MarksApart (init ++ [Event.mark dataName, .byte .oddPadding, .mark m] : List MapEvent) := by
  rw [show [.mark dataName, .byte .oddPadding, .mark m] =
    [(.mark dataName : MapEvent)] ++ [Event.byte .oddPadding, .mark m] from rfl, ← List.append_assoc]
  refine List.isChain_append.mpr ⟨apart_before_mark h dataName, ?_, ?_⟩
  · exact List.isChain_cons_cons.mpr ⟨.inl rfl, List.IsChain.singleton _⟩
  · intro e he e' he'
    cases he'
    exact .inr rfl

theorem named_odd {init : List MapEvent} {m : List Char} (h : Named (init ++ [Event.mark m])) :
    Named (init ++ [Event.mark dataName, .byte .oddPadding, .mark m]) := by
  intro n hn
  rcases List.mem_append.mp hn with hmem | hmem
  · exact h n (List.mem_append_left _ hmem)
  · simp only [List.mem_cons, Event.mark.injEq, reduceCtorEq, List.not_mem_nil, or_false, false_or] at hmem
    rcases hmem with rfl | rfl
    · decide
    · exact h n (List.mem_append_right _ List.mem_cons_self)

/-- The symbols of an odd padding: `$d` in front of the byte, and what was there behind it. -/
theorem holds_odd {init : List MapEvent} {m : List Char} (h : FragHolds false frag (init ++ [Event.mark m]))
    (hm : m ≠ dataName) :
    FragHolds false { makeOddMappingSymbol .mapData frag.content.length frag none with
        content := frag.content ++ [.oddPadding] }
      (init ++ [Event.mark dataName, .byte .oddPadding, .mark m]) := by
  have hname : riscvElfIsMappingSymbols m = true := h.named m (List.mem_append_right _ List.mem_cons_self)
  have hmarks : marksFrom 0 (init ++ [Event.mark m]) = marksFrom 0 init ++ [⟨m, (bytesOf init).length⟩] := by
    rw [marksFrom_concat_mark, Nat.zero_add]
  have hlen : frag.content.length = (bytesOf init).length := by
    rw [h.content, bytesOf_concat_mark]
  have hremoved : (frag.addSymbol ⟨dataName, frag.content.length⟩).2 = some ⟨m, frag.content.length⟩ := by
    have hend := addSymbol_end h dataName
    rw [← h.content] at hend
    rw [hend, List.getLast?_concat, hmarks, List.getLast?_concat, hlen]
    rfl
  have hnot := @MarksApart.last_not_mem _ _ init 0 m h.apart
  rw [Nat.zero_add] at hnot
  have hmarks' : marksFrom 0 (init ++ [Event.mark dataName, .byte .oddPadding, .mark m] : List MapEvent) =
      marksFrom 0 init ++ [⟨dataName, (bytesOf init).length⟩, ⟨m, (bytesOf init).length + 1⟩] := by
    rw [marksFrom_append, Nat.zero_add]
    rfl
  rw [makeOddMappingSymbol_end hname hm hremoved]
  refine ⟨?_, ?_, ?_, ?_, apart_odd h.apart, named_odd h.named⟩
  · rw [bytesOf_append, h.content, bytesOf_concat_mark]
    rfl
  · dsimp only
    rw [hmarks', h.symbols, hmarks, hlen, List.append_assoc, List.erase_append_right _ hnot]
    simp
  · dsimp only
    rw [h.first]
    by_cases hzero : frag.content.length = 0
    · rw [if_pos hzero]
      obtain rfl := apart_init_nil h.apart (hlen ▸ hzero)
      rw [hzero]
      rfl
    · rw [if_neg hzero]
      cases init with
      | nil => exact absurd hlen hzero
      | cons e init => cases e <;> rfl
  · dsimp only
    rw [hmarks', hlen, List.getLast?_append]
    rfl

/-- The bytes of nops behind a sequence of code. -/
theorem readsRight_nops (h : ReadsRight v es) (hcode : (seeAll v es).cur = .mapInsn) (n : Nat) :
    ReadsRight v (es ++ (List.replicate n .nop).map .byte) ∧
      seeAll v (es ++ (List.replicate n .nop).map .byte) = seeAll v es := by
  refine ⟨good_append.mpr ⟨h, good_bytes ?_⟩, ?_⟩
  · intro b hb
    rw [List.eq_of_mem_replicate hb]
    exact hcode
  · rw [seeAll, viewAfter_append, viewAfter_bytes]

theorem riscvMakeNops_even {excess : Nat} (h : excess % 2 ≠ 1) : riscvMakeNops excess = List.replicate excess .nop := by
  rw [riscvMakeNops, if_neg h, show excess - excess % 2 = excess by omega, List.nil_append]

theorem riscvMakeNops_odd {excess : Nat} (h : excess % 2 = 1) :
    riscvMakeNops excess = .oddPadding :: List.replicate (excess - 1) .nop := by
  rw [riscvMakeNops, if_pos h, h]
  rfl

/-- Nops of an odd length behind a symbol: the zero byte is data, and the view behind the nops is the same. -/
theorem fill_odd (h : FragHolds false frag es) (hgood : ReadsRight v es) (hcode : (seeAll v es).cur = .mapInsn)
    {symbol : MapSymbol} (hlast : frag.lastMapSymbol = some symbol) (hvalue : symbol.value = frag.content.length)
    (n : Nat) :
    ∃ es', FragHolds false { makeOddMappingSymbol .mapData frag.content.length frag none with
        content := frag.content ++ [.oddPadding] ++ List.replicate n .nop } es' ∧
      ReadsRight v es' ∧ seeAll v es' = seeAll v es ∧ (bytesOf es').length = (bytesOf es).length + (n + 1) := by
  obtain ⟨init, rfl, -⟩ := ends_mark h hlast hvalue
  have hsee : seeAll v (init ++ [Event.mark symbol.name]) = (seeAll v init).see symbol.name := by
    rw [seeAll, viewAfter_append]
    rfl
  have hm : symbol.name ≠ dataName := by
    intro hdata
    rw [hsee, see_cur, hdata] at hcode
    cases hcode
  have hview : seeAll v (init ++ [Event.mark dataName, .byte .oddPadding, .mark symbol.name]) =
      seeAll v (init ++ [Event.mark symbol.name]) := by
    rw [hsee, seeAll, viewAfter_append]
    exact see_see (by rw [isArchName_dataName]; exact fun hfalse => by cases hfalse)
  have hright : ReadsRight v (init ++ [Event.mark dataName, .byte .oddPadding, .mark symbol.name]) := by
    refine good_append.mpr ⟨(good_append.mp hgood).1, ?_, trivial⟩
    show ((seeAll v init).see dataName).cur = .mapData
    rw [see_data]
  obtain ⟨hnops, hsame⟩ := readsRight_nops hright (hview ▸ hcode) n
  refine ⟨_, holds_bytes (holds_odd h hm) (List.replicate n .nop), hnops, hsame.trans hview, ?_⟩
  rw [bytesOf_append, bytesOf_bytes, List.length_append, List.length_replicate, bytesOf_append, bytesOf_concat_mark,
    List.length_append]
  show (bytesOf init).length + 1 + n = _
  omega

/-- `riscv_handle_align`: the padding is right, and the view behind it is the same. -/
theorem fill_frag (h : FragHolds false frag es) (hgood : ReadsRight v es) (hfits : frag.type.Fits (seeAll v es))
    (hodd : ∀ alignment max : Nat, frag.type = .rsAlignCode alignment max →
      frag.type.padding (frag.address + frag.content.length) % 2 = 1 →
      ∃ symbol, frag.lastMapSymbol = some symbol ∧ symbol.value = frag.content.length) :
    ∃ es', FragHolds false (riscvHandleAlign frag) es' ∧ ReadsRight v es' ∧ seeAll v es' = seeAll v es ∧
      (bytesOf es').length = (bytesOf es).length + frag.type.padding (frag.address + frag.content.length) ∧
      (riscvHandleAlign frag).address = frag.address ∧ (frag.type = .rsFill → es' = es) := by
  unfold riscvHandleAlign
  dsimp only
  split
  · rename_i htype
    rw [htype]
    exact ⟨es, h, hgood, rfl, rfl, rfl, fun _ => rfl⟩
  · rename_i alignment max htype
    rw [htype] at hfits
    refine ⟨_, holds_bytes h _, good_append.mpr ⟨hgood, good_bytes ?_⟩, ?_, ?_, rfl, ?_⟩
    · intro b hb
      rw [List.eq_of_mem_replicate hb]
      exact hfits
    · rw [seeAll, viewAfter_append, viewAfter_bytes]
    · rw [bytesOf_append, bytesOf_bytes, List.length_append, List.length_replicate]
    · rw [htype]
      exact fun hfill => by cases hfill
  · rename_i alignment max htype
    have hnot : frag.type = .rsFill → ∀ es' : List MapEvent, es' = es := by
      rw [htype]
      exact fun hfill => by cases hfill
    have hcode : (seeAll v es).cur = .mapInsn := by
      rw [htype] at hfits
      exact hfits
    have hodd := hodd alignment max htype
    generalize hbytes : frag.type.padding (frag.address + frag.content.length) = bytes at hodd
    by_cases hzero : bytes = 0
    · rw [if_pos hzero, hzero]
      exact ⟨es, h, hgood, rfl, rfl, rfl, fun _ => rfl⟩
    · rw [if_neg hzero]
      by_cases hexcess : bytes % 4 % 2 = 1
      · rw [if_pos hexcess, riscvMakeNops_odd hexcess]
        obtain ⟨symbol, hlast, hvalue⟩ := hodd (by omega)
        obtain ⟨es', hholds, hright, hview, hlen⟩ := fill_odd h hgood hcode hlast hvalue (bytes - 1)
        obtain ⟨hkeep, haddress⟩ := makeOddMappingSymbol_frame frag frag.content.length
        -- the padding begins with the zero byte
        have hcontent : frag.content ++ .oddPadding :: List.replicate (bytes % 4 - 1) .nop ++
              List.replicate (bytes - bytes % 4) .nop =
            frag.content ++ [.oddPadding] ++ List.replicate (bytes - 1) .nop := by
          rw [List.append_assoc, List.append_assoc, List.cons_append, List.singleton_append, ← List.replicate_add,
            show bytes % 4 - 1 + (bytes - bytes % 4) = bytes - 1 by omega]
        refine ⟨es', ?_, hright, hview, by rw [hlen]; omega, haddress, fun hfill => hnot hfill _⟩
        rw [hkeep, hcontent]
        exact hholds
      · rw [if_neg hexcess, riscvMakeNops_even hexcess]
        obtain ⟨hnops, hsame⟩ := readsRight_nops hgood hcode bytes
        refine ⟨_, ?_, hnops, hsame, ?_, rfl, fun hfill => hnot hfill _⟩
        · rw [List.append_assoc, ← List.replicate_add, show bytes % 4 + (bytes - bytes % 4) = bytes by omega]
          exact holds_bytes h _
        · rw [bytesOf_append, bytesOf_bytes, List.length_append, List.length_replicate]

/-- The filled frags, from an address on. -/
theorem fill_frags {frags : List Frag} {ps : List (FragType × List MapEvent)} {address : Nat}
    (hholds : List.Forall₂ (fun frag p => frag.type = p.1 ∧ FragHolds false frag p.2) frags ps)
    (hgood : GoodFrags v ps) (hodd : OddPaddingMarked (relaxSegment address frags)) :
    ∃ ess, PlacedFrags address ((relaxSegment address frags).map riscvHandleAlign) ess ∧ ReadsRight v ess.flatten ∧
      (ps.getLast? = some (.rsFill, []) → ess.getLast? = some []) := by
  induction hholds generalizing v address with
  | nil => exact ⟨[], .nil, trivial, fun h => by cases h⟩
  | @cons frag p frags ps hhead htail ih =>
    obtain ⟨type, es⟩ := p
    obtain ⟨rfl, hhead⟩ := hhead
    obtain ⟨hright, hfits, hrest⟩ := hgood
    have hholds : FragHolds false { frag with address } es :=
      ⟨hhead.content, hhead.symbols, hhead.first, hhead.last, hhead.apart, hhead.named⟩
    obtain ⟨es', hfilled, hright', hview, hlen, haddress, hfill⟩ := fill_frag hholds hright hfits
      (hodd _ List.mem_cons_self)
    obtain ⟨ess, hplaced, hrights, hlast⟩ := ih hrest
      (fun frag hmem => hodd frag (List.mem_cons_of_mem _ hmem))
    refine ⟨es' :: ess, .cons haddress hfilled ?_, ?_, ?_⟩
    · rw [hlen, ← hhead.content, ← Nat.add_assoc]
      exact hplaced
    · rw [List.flatten_cons]
      refine good_append.mpr ⟨hright', ?_⟩
      show ReadsRight (seeAll v es') ess.flatten
      rw [hview]
      exact hrights
    · intro hps
      cases htail with
      | nil =>
        cases hplaced
        simp only [List.getLast?_singleton, Option.some.injEq, Prod.mk.injEq] at hps
        rw [hfill hps.1, hps.2]
        rfl
      | cons _ _ =>
        cases hplaced with
        | cons _ _ _ =>
          rw [List.getLast?_cons_cons] at hps ⊢
          exact hlast hps

end Fill

end RiscvBinutils.Gas
