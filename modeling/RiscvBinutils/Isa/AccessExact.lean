/-
The ISA strings that lead to an access outside of `riscv_ext_order`, or to a read before the copy of a name
(bfd/elfxx-riscv.c): those given to the parser, to `.option arch` and to the linker.
-/
import Mathlib.Data.List.Perm.Subperm
import RiscvBinutils.Isa.AccessSafe
import RiscvBinutils.Isa.Update

namespace RiscvBinutils.Isa

open Std RiscvBinutils.Base

/-! ## The loop over a string -/

section Scan

variable {check : Bool} {arch : List Char} {fuel : Nat}

theorem nextToken_single {c : Char} {p : List Char} (hclass : riscvGetPrefixClass (c :: p) = .single) :
    nextToken check arch (c :: p) =
      if riscvExtOrder c = 0 then .error (.unknownStandard arch c)
      else .ok (⟨[c], (riscvParsingSubsetVersion p).1, (riscvParsingSubsetVersion p).2.1⟩,
        (riscvParsingSubsetVersion p).2.2) := by
  rw [nextToken, hclass]

theorem nextToken_prefixed {p : List Char} (hclass : riscvGetPrefixClass p ≠ .single) (text : List Char) (c : Char) :
    nextToken check arch p ≠ .error (.unknownStandard text c) := by
  unfold nextToken
  split
  · rename_i hsingle
    exact absurd hsingle hclass
  · dsimp only
    intro h
    split at h
    · cases h
    · split at h <;> cases h

theorem inTable_of_order {c : Char} (h : riscvExtOrder c ≠ 0) : InTable c := riscvExtOrder_range (Nat.pos_of_ne_zero h)

/-- The loop looks up the characters of the standard extensions; it stops at one that has no order. -/
theorem startAccesses_iff (p : List Char) : AllInTable (startAccesses check arch fuel p) ↔
    ∀ text c, (scanExtensions check arch fuel p).2 = some (.unknownStandard text c) → InTable c := by
  induction fuel generalizing p with
  | zero => simp [startAccesses, scanExtensions, AllInTable]
  | succ fuel ih =>
    cases p with
    | nil => simp [startAccesses, scanExtensions, AllInTable]
    | cons c p =>
      rw [startAccesses, scanExtensions]
      by_cases hunderscore : c = '_'
      · rw [if_pos hunderscore, if_pos hunderscore]
        exact ih p
      rw [if_neg hunderscore, if_neg hunderscore, AllInTable.append_iff]
      by_cases hclass : riscvGetPrefixClass (c :: p) = .single
      · rw [if_pos hclass, nextToken_single hclass]
        by_cases ho : riscvExtOrder c = 0
        · rw [if_pos ho]
          simp [AllInTable]
        · rw [if_neg ho]
          dsimp only
          rw [if_neg (fun h => h.1 hclass), if_neg (fun h => h.1 hclass), ← ih]
          exact and_iff_right fun d hd => List.mem_singleton.mp hd ▸ inTable_of_order ho
      · rw [if_neg hclass, and_iff_right AllInTable.nil]
        have herror := @nextToken_prefixed check arch (c :: p) hclass
        cases htoken : nextToken check arch (c :: p) with
        | error e =>
          refine ⟨fun _ text d h => ?_, fun _ => .nil⟩
          rw [htoken] at herror
          exact absurd (congrArg Except.error (Option.some.inj h)) (herror text d)
        | ok r =>
          obtain ⟨t, rest⟩ := r
          dsimp only
          split
          · exact ⟨fun _ text d h => (by cases h), fun _ => .nil⟩
          · exact ih rest

theorem stripReadsBefore_of_last {bounded any minor : Bool} {q : List Char} {c : Char} (hlast : q.getLast? = some c)
    (hdigit : isDigit c = false) (hp : c ≠ 'p') : stripReadsBefore bounded any minor q = false := by
  induction q generalizing any minor with
  | nil => cases hlast
  | cons d q ih =>
    have htail (hne : q ≠ []) : q.getLast? = some c := by
      rwa [List.getLast?_cons_of_ne_nil hne] at hlast
    rw [stripReadsBefore]
    by_cases hnil : q = []
    · subst hnil
      obtain rfl : d = c := by simpa using hlast
      rw [if_neg (by simp [hdigit]), if_neg (by simp [hp])]
    · split
      · exact ih (htail hnil)
      · split
        · split
          · exact ih (htail hnil)
          · rfl
        · rfl

/-- A prefix class begins with a letter other than p, where the search backwards ends. -/
theorem prefixed_head {c : Char} {p : List Char} (hclass : riscvGetPrefixClass (c :: p) ≠ .single) :
    isDigit c = false ∧ c ≠ 'p' ∧ c ≠ '_' := by
  have hhead := head?_eq_letter hclass
  rw [List.head?_cons] at hhead
  cases hk : riscvGetPrefixClass (c :: p) with
  | single => exact absurd hk hclass
  | z | s | zxm | x =>
    rw [hk] at hhead
    rw [Option.some.inj hhead]
    decide

/-- No character before the copy of a name is read. -/
theorem extensionsReadBefore_eq (p : List Char) : extensionsReadBefore check arch fuel p = false := by
  induction fuel generalizing p with
  | zero => rfl
  | succ fuel ih =>
    cases p with
    | nil => rfl
    | cons c p =>
      rw [extensionsReadBefore]
      split
      · exact ih p
      · rename_i hunderscore
        rw [Bool.or_eq_false_iff]
        constructor
        · by_cases hclass : riscvGetPrefixClass (c :: p) = .single
          · simp [hclass]
          · obtain ⟨hdigit, hp, -⟩ := prefixed_head hclass
            have hstripped := class_strippedName hclass
            have hname : checkReadsBefore (strippedName (c :: p)) = false := by
              rw [checkReadsBefore, Bool.or_eq_false_iff, decide_eq_false_iff_not, decide_eq_false_iff_not]
              constructor
              all_goals
                intro h
                rw [h] at hstripped
                exact hclass hstripped.symm
            have hlast : ((c :: p).takeWhile (· ≠ '_')).reverse.getLast? = some c := by
              rw [List.getLast?_reverse, List.takeWhile_cons_of_pos (by simpa using hunderscore), List.head?_cons]
            rw [stripReadsBefore_of_last hlast hdigit hp, hname]
            simp
        · split
          · rfl
          · split
            · rfl
            · exact ih _

theorem parseReadsBefore_eq (rps : Rps) (arch : Option (List Char)) : parseReadsBefore rps arch = false := by
  unfold parseReadsBefore
  split
  · rfl
  · split
    · rfl
    · split
      · rfl
      · split
        · exact extensionsReadBefore_eq _
        · rfl

end Scan

/-! ## The parser -/

section Parse

variable {rps : Rps} {st : ParseState} {l : SubsetList} {zs : List Name}

/-- A list in which no two z extensions were compared unless all have a lower-case letter behind the z. -/
structure Tame (l : SubsetList) : Prop extends Firsts l where
  few : FewOrGood (zNames (l.nodes.map (·.name)))

theorem Tame.zrun (h : Tame l) : ZRun (zNames (l.nodes.map (·.name))) l where
  toFirsts := h.toFirsts
  mem s hs hz := mem_zNames.mpr ⟨List.mem_map_of_mem hs, hz⟩
  present := by
    intro hne
    obtain ⟨m, hm⟩ := List.exists_mem_of_ne_nil _ hne
    obtain ⟨hm, hz⟩ := mem_zNames.mp hm
    obtain ⟨s, hs, rfl⟩ := List.mem_map.mp hm
    exact ⟨s, hs, hz⟩
  names _ hm := (mem_zNames.mp hm).2

theorem Safe.tame (h : Safe l) : Tame l where
  toFirsts := h.toFirsts
  few := by
    refine .inl fun n hn => ?_
    obtain ⟨s, hs, rfl⟩ := List.mem_map.mp (mem_zNames.mp hn).1
    exact (h.names s hs).second

theorem ZRun.safe (h : ZRun zs l) (hgood : ∀ n ∈ zs, SecondInTable n) : Safe l :=
  ⟨h.toWf, fun s hs => ⟨h.firsts s hs, fun hz => hgood s.name (h.mem s hs hz) hz⟩⟩

/-- A list has no z extension twice. -/
theorem ZRun.tame (h : ZRun zs l) (hzs : FewOrGood zs) : Tame l where
  toFirsts := h.toFirsts
  few := by
    rcases hzs with hgood | hfew
    · exact (h.safe hgood).tame.few
    · right
      have hnodup : (l.nodes.map (·.name)).Nodup := by
        refine List.pairwise_map.mpr (h.ordered.imp fun {a b} hlt heq => ?_)
        have hself : riscvCompareSubsets b.name b.name = .eq := ReflCmp.compare_self
        rw [heq, hself] at hlt
        cases hlt
      have hsub : zNames (l.nodes.map (·.name)) ⊆ zs := by
        intro n hn
        obtain ⟨hn, hz⟩ := mem_zNames.mp hn
        obtain ⟨s, hs, rfl⟩ := List.mem_map.mp hn
        exact h.mem s hs hz
      exact (List.subperm_of_subset (hnodup.filter _) hsub).length_le.trans hfew

/-- The searches behind the extensions stay inside the table exactly if all z extensions are good. -/
theorem ZRun.close_iff (h : ZRun zs st.list) :
    FewOrGood zs ∧ AllInTable (closeAccesses rps st) ↔ ∀ n ∈ zs, SecondInTable n :=
  ⟨fun hclose => h.good_of_close hclose.1 hclose.2, fun hgood => ⟨.inl hgood, (h.safe hgood).close⟩⟩

/-- The z extensions that are looked for until the extensions of a string are stored. -/
def lookedFor (rps : Rps) (arch p : List Char) (l : SubsetList) : List Name :=
  zNames (l.nodes.map (·.name)) ++
    zNames ((tokenEntries rps (scanExtensions rps.checkUnknownPrefixedExt arch p.length p).1).map (·.name))

section Extensions

variable {arch p : List Char}

theorem extensionsAccesses_iff (h : Tame st.list) (hp : ∀ c ∈ p, isUpper c = false)
    (hbase : p.head? = some 'e' ∨ p.head? = some 'i' ∨ p.head? = some 'g') :
    AllInTable (extensionsAccesses rps arch p st) ↔
      (∀ text c, (scanExtensions rps.checkUnknownPrefixedExt arch p.length p).2 = some (.unknownStandard text c) →
        InTable c) ∧ FewOrGood (lookedFor rps arch p st.list) := by
  have htokens : ∀ t ∈ (scanExtensions rps.checkUnknownPrefixedExt arch p.length p).1, ParsedName t.name :=
    fun t ht => (scanExtensions_clean hp t ht).1.parsed
  rw [extensionsAccesses, if_pos hbase, AllInTable.append_iff, startAccesses_iff, h.zrun.tokens_iff h.few htokens]
  rfl

/-- The list when the loop over the extensions has ended. -/
theorem extensions_zrun (rps : Rps) (arch : List Char) (h : Tame st.list) (hp : ∀ c ∈ p, isUpper c = false)
    (hbase : p.head? = some 'e' ∨ p.head? = some 'i' ∨ p.head? = some 'g') :
    ZRun (lookedFor rps arch p st.list) (riscvParseExtensions rps arch p st).2.list ∧
      ((riscvParseExtensions rps arch p st).1 = true ↔
        (scanExtensions rps.checkUnknownPrefixedExt arch p.length p).2 = none) := by
  have htokens : ∀ t ∈ (scanExtensions rps.checkUnknownPrefixedExt arch p.length p).1, ParsedName t.name :=
    fun t ht => (scanExtensions_clean hp t ht).1.parsed
  have hrun := h.zrun.tokens rps htokens
  rw [riscvParseExtensions, if_pos hbase]
  dsimp only
  cases hscan : (scanExtensions rps.checkUnknownPrefixedExt arch p.length p).2 with
  | none => exact ⟨hrun, by simp⟩
  | some e => exact ⟨hrun, by simp⟩

end Extensions

/-- The parser stays inside the table exactly under its condition. -/
theorem parseAccesses_iff (h : Tame st.list) (arch : Option (List Char)) :
    AllInTable (parseAccesses rps arch st) ↔ ParseInRange rps arch st.list := by
  have hrun := h.zrun
  cases arch with
  | none =>
    rw [parseAccesses, ParseInRange, AllInTable.append_iff, riscvSetDefaultArch_eq]
    have hg := hrun.parseAdd_iff rps h.few (n := ['g']) (by decide) riscvUnknownVersion riscvUnknownVersion
    have hafter := hrun.parseAdd rps (n := ['g']) (by decide) riscvUnknownVersion riscvUnknownVersion
    rw [zNames_other (by decide), List.append_nil] at hg hafter
    rw [hg]
    exact hafter.close_iff
  | some arch =>
    rw [parseAccesses, ParseInRange]
    cases hupper : arch.any isUpper with
    | true => simp [AllInTable]
    | false =>
    rw [if_neg Bool.false_ne_true]
    cases hxlen : archXlen arch with
    | none => simp [AllInTable]
    | some r =>
      obtain ⟨xlen, p⟩ := r
      dsimp only
      have hcond (P : Nat → List Char → Prop) :
          (false = false → ∀ xlen' p', some (xlen, p) = some (xlen', p') → P xlen' p') ↔ P xlen p :=
        ⟨fun hall => hall rfl xlen p rfl, fun hP _ xlen' p' heq => by cases heq; exact hP⟩
      rw [hcond]
      by_cases hbase : p.head? = some 'e' ∨ p.head? = some 'i' ∨ p.head? = some 'g'
      · have hp := lower_of_archXlen hupper hxlen
        have h' : Tame ({ st with xlen } : ParseState).list := h
        obtain ⟨hafter, hok⟩ := extensions_zrun rps arch h' hp hbase
        rw [AllInTable.append_iff, extensionsAccesses_iff h' hp hbase, imp_iff_right hbase, and_assoc]
        refine and_congr_right fun _ => ?_
        have hlooked : zNames (st.list.nodes.map (·.name)) ++ zNames ((tokenEntries rps
          (scanExtensions rps.checkUnknownPrefixedExt arch p.length p).1).map (·.name)) =
            lookedFor rps arch p st.list := rfl
        rw [hlooked]
        cases hext : riscvParseExtensions rps arch p { st with xlen } with
        | mk ok st' =>
          rw [hext] at hafter hok
          cases ok with
          | false =>
            have herror : (scanExtensions rps.checkUnknownPrefixedExt arch p.length p).2 ≠ none :=
              fun hnone => Bool.false_ne_true (hok.mpr hnone)
            rw [and_iff_left AllInTable.nil, and_iff_right herror]
            rfl
          | true =>
            rw [hok.mp rfl]
            refine hafter.close_iff.trans ⟨.inl, ?_⟩
            rintro (hgood | ⟨hne, -⟩)
            · exact hgood
            · exact absurd rfl hne
      · rw [extensionsAccesses, if_neg hbase, riscvParseExtensions, if_neg hbase]
        exact ⟨fun _ h => absurd h hbase, fun _ => .nil⟩

/-- The part of an ISA string that is read as extensions. -/
structure Reads (arch p : List Char) : Prop where
  lower : arch.any isUpper = false
  xlen : ∃ xlen, archXlen arch = some (xlen, p)
  base : p.head? = some 'e' ∨ p.head? = some 'i' ∨ p.head? = some 'g'

/-- How a parse ends: at the beginning, at an extension, or behind them. -/
inductive ParseEnds (rps : Rps) (arch : List Char) (st : ParseState) : Bool × ParseState → Prop
  | refused {st' : ParseState} (h : st'.list = st.list) : ParseEnds rps arch st (false, st')
  | stopped {p : List Char} {st' : ParseState} (hp : Reads arch p)
      (hscan : (scanExtensions rps.checkUnknownPrefixedExt arch p.length p).2 ≠ none)
      (hrun : ZRun (lookedFor rps arch p st.list) st'.list) : ParseEnds rps arch st (false, st')
  | read {p : List Char} {st' : ParseState} (hp : Reads arch p)
      (hscan : (scanExtensions rps.checkUnknownPrefixedExt arch p.length p).2 = none)
      (hrun : ZRun (lookedFor rps arch p st.list) st'.list) :
      ParseEnds rps arch st (riscvParseCheckConflicts (riscvParseAddImplicitSubsets rps st'))

theorem parseEnds (rps : Rps) (h : Tame st.list) (arch : List Char) :
    ParseEnds rps arch st (riscvParseSubset rps (some arch) st) := by
  rw [riscvParseSubset]
  cases hupper : arch.any isUpper with
  | true => exact .refused rfl
  | false =>
  rw [if_neg Bool.false_ne_true]
  cases hxlen : archXlen arch with
  | none =>
    refine .refused ?_
    split <;> rfl
  | some r =>
    obtain ⟨xlen, p⟩ := r
    dsimp only
    by_cases hbase : p.head? = some 'e' ∨ p.head? = some 'i' ∨ p.head? = some 'g'
    · have hp : Reads arch p := ⟨hupper, ⟨xlen, hxlen⟩, hbase⟩
      have h' : Tame ({ st with xlen } : ParseState).list := h
      obtain ⟨hafter, hok⟩ := extensions_zrun rps arch h' (lower_of_archXlen hupper hxlen) hbase
      cases hext : riscvParseExtensions rps arch p { st with xlen } with
      | mk ok st' =>
        rw [hext] at hafter hok
        cases ok with
        | false => exact .stopped hp (fun hnone => Bool.false_ne_true (hok.mpr hnone)) hafter
        | true => exact .read hp (hok.mp rfl) hafter
    · rw [riscvParseExtensions, if_neg hbase]
      exact .refused rfl

theorem safe_g : SafeName ['g'] := ⟨by decide, fun hz => absurd hz (by decide)⟩

/-- What the parser leaves when it stays inside the table. -/
theorem parse_tame (h : Tame st.list) {arch : Option (List Char)} (hin : ParseInRange rps arch st.list) :
    Tame (riscvParseSubset rps arch st).2.list ∧
      ((riscvParseSubset rps arch st).1 = true → Safe (riscvParseSubset rps arch st).2.list) := by
  cases arch with
  | none =>
    have hsafe : Safe (riscvParseSubset rps none st).2.list := by
      refine Safe.closed rps ?_
      rw [riscvSetDefaultArch_eq]
      exact (h.zrun.safe hin).parseAddSubset safe_g _ _ _
    exact ⟨hsafe.tame, fun _ => hsafe⟩
  | some arch =>
  have hgood {p : List Char} (hp : Reads arch p) : (∀ n ∈ lookedFor rps arch p st.list, SecondInTable n) ∨
      ((scanExtensions rps.checkUnknownPrefixedExt arch p.length p).2 ≠ none ∧
        (lookedFor rps arch p st.list).length ≤ 1) := by
    obtain ⟨xlen, hxlen⟩ := hp.xlen
    exact (hin hp.lower xlen p hxlen hp.base).2
  have hends := parseEnds rps h arch
  generalize riscvParseSubset rps (some arch) st = r at hends ⊢
  cases hends with
  | refused hsame =>
    rw [hsame]
    exact ⟨h, fun hfalse => absurd hfalse Bool.false_ne_true⟩
  | stopped hp hscan hrun =>
    exact ⟨hrun.tame ((hgood hp).imp_right (·.2)), fun hfalse => absurd hfalse Bool.false_ne_true⟩
  | read hp hscan hrun =>
    have hsafe := (hrun.safe ((hgood hp).resolve_right fun hno => hno.1 hscan)).closed rps
    exact ⟨hsafe.tame, fun _ => hsafe⟩

/-- Where unknown extensions are refused, all z extensions in a list have a letter behind the z. -/
theorem lookedFor_second (h : Safe l) (hcheck : rps.checkUnknownPrefixedExt = true) {arch p : List Char}
    (hp : ∀ c ∈ p, isUpper c = false) : ∀ n ∈ lookedFor rps arch p l, SecondInTable n := by
  intro n hn
  rcases List.mem_append.mp hn with hn | hn
  · obtain ⟨s, hs, rfl⟩ := List.mem_map.mp (mem_zNames.mp hn).1
    exact (h.names s hs).second
  · obtain ⟨s, hs, rfl⟩ := List.mem_map.mp (mem_zNames.mp hn).1
    obtain ⟨t, ht, hentry⟩ := List.mem_filterMap.mp hs
    rw [tokenEntry_name hentry]
    obtain ⟨-, -, hknown⟩ := scanExtensions_clean hp t ht
    intro hz
    have hclass : riscvGetPrefixClass t.name ≠ .single := by
      rw [hz]
      decide
    exact inTable_of_headOrder (second_of_recognized (hknown hcheck hclass) hz)

theorem parse_safe (h : Safe st.list) (hcheck : rps.checkUnknownPrefixedExt = true) (arch : Option (List Char)) :
    Safe (riscvParseSubset rps arch st).2.list := by
  cases arch with
  | none =>
    refine Safe.closed rps ?_
    rw [riscvSetDefaultArch_eq]
    exact h.parseAddSubset safe_g _ _ _
  | some arch =>
    have hsecond {p : List Char} (hp : Reads arch p) : ∀ n ∈ lookedFor rps arch p st.list, SecondInTable n := by
      obtain ⟨xlen, hxlen⟩ := hp.xlen
      exact lookedFor_second h hcheck (lower_of_archXlen hp.lower hxlen)
    have hends := parseEnds rps h.tame arch
    generalize riscvParseSubset rps (some arch) st = r at hends ⊢
    cases hends with
    | refused hsame =>
      rw [hsame]
      exact h
    | stopped hp hscan hrun => exact hrun.safe (hsecond hp)
    | read hp hscan hrun => exact (hrun.safe (hsecond hp)).closed rps

end Parse

/-! ## `.option arch` -/

section Update

variable {rps : Rps} {st : ParseState} {str : List Char}

theorem LetThrough.safe {p rest : List Char} {t : Token} (h : LetThrough true p t rest) : SafeName t.name := by
  by_cases hone : t.name.length = 1
  · have ho := h.letter hone
    refine ⟨inTable_of_headOrder ho, fun hz => ?_⟩
    rw [class_eq_single_of_headOrder ho] at hz
    cases hz
  · have hempty := h.nonempty
    have hknown := h.known (by omega) rfl
    exact ⟨inTable_of_class (class_ne_single_of_recognized hknown),
      fun hz => inTable_of_headOrder (second_of_recognized hknown hz)⟩

/-- A single character is looked up, whatever it is. -/
theorem nextUpdateAccesses_iff (p : List Char) : AllInTable (nextUpdateAccesses p) ↔
    ((updateName p).length = 1 → InTable (charAt (updateName p))) := by
  rw [nextUpdateAccesses]
  by_cases hone : (updateName p).length = 1
  · have hnumber : endsWithNumberP (updateName p) = false := by
      obtain ⟨c, hc⟩ := List.length_eq_one_iff.mp hone
      rw [hc, endsWithNumberP, List.reverse_singleton]
      split
      · rename_i heq
        cases heq
      · rfl
    rw [if_neg (by simp [hnumber]), if_pos hone, imp_iff_right hone]
    simp [AllInTable]
  · rw [if_neg hone, ite_self]
    exact ⟨fun _ h => absurd h hone, fun _ => .nil⟩

/-- The search backwards reads the character before the start at a p there. -/
theorem stripVersion_of_readsBefore {any minor : Bool} {q : List Char} (h : stripReadsBefore true any minor q = true) :
    stripVersion any minor q = ['p'] ∧ q ≠ [] ∧ (any = false → 1 < q.length) := by
  induction q generalizing any minor with
  | nil => cases h
  | cons c q ih =>
    rw [stripReadsBefore] at h
    rw [stripVersion]
    by_cases hdigit : isDigit c = true
    · rw [if_pos hdigit] at h
      obtain ⟨hstrip, hne, -⟩ := ih h
      rw [if_pos hdigit]
      refine ⟨hstrip, List.cons_ne_nil _ _, fun _ => ?_⟩
      have := List.length_pos_of_ne_nil hne
      rw [List.length_cons]
      omega
    · rw [if_neg hdigit] at h
      rw [if_neg hdigit]
      by_cases hminor : any = true ∧ minor = false ∧ c = 'p'
      · rw [if_pos hminor] at h
        obtain ⟨hany, hminor, rfl⟩ := hminor
        by_cases hnil : q = []
        · subst hnil
          exact ⟨if_neg (by simp), List.cons_ne_nil _ _, fun hno => absurd hany (by simp [hno])⟩
        · rw [if_neg hnil] at h
          by_cases hhead : q.head?.any isDigit = true
          · rw [if_pos hhead] at h
            rw [if_pos ⟨hany, hminor, rfl, hhead⟩]
            exact ⟨(ih h).1, List.cons_ne_nil _ _, fun hno => absurd hany (by simp [hno])⟩
          · rw [if_neg hhead] at h
            cases h
      · rw [if_neg hminor] at h
        cases h

theorem updateName_ne_nil {p : List Char} (h : p.takeWhile (· ≠ ',') ≠ []) : updateName p ≠ [] := by
  have hp : p ≠ [] := by
    rintro rfl
    exact h rfl
  rw [updateName, ne_eq, List.take_eq_nil_iff, not_or]
  refine ⟨?_, hp⟩
  split
  · exact Nat.one_ne_zero
  · rename_i hno
    exact fun hzero => hno ⟨hzero, h⟩

theorem updateName_of_strip {p : List Char}
    (h : stripVersion false false (p.takeWhile (· ≠ ',')).reverse = ['p']) : updateName p = ['p'] := by
  obtain ⟨⟨v, hv, -⟩, -⟩ := stripVersion_spec false false (p.takeWhile (· ≠ ',')).reverse
  rw [h] at hv
  have hseg : p.takeWhile (· ≠ ',') = 'p' :: v.reverse := by
    rw [← List.reverse_reverse (p.takeWhile (· ≠ ',')), hv, List.reverse_append]
    rfl
  have hsplit := List.takeWhile_append_dropWhile (p := fun c : Char => decide (c ≠ ',')) (l := p)
  rw [hseg] at hsplit
  have htake : p.take 1 = ['p'] := by
    rw [← hsplit]
    rfl
  rw [updateName, h]
  exact htake

/-- The name p with something behind it. -/
theorem nextUpdateReadsBefore_iff (p : List Char) : nextUpdateReadsBefore p = false ↔
    ¬(1 < (p.takeWhile (· ≠ ',')).length ∧ updateName p = ['p']) := by
  rw [nextUpdateReadsBefore, ← Bool.not_eq_true, Bool.or_eq_true, Bool.and_eq_true, decide_eq_true_iff,
    checkReadsBefore, Bool.or_eq_true, decide_eq_true_iff, decide_eq_true_iff, not_iff_not]
  constructor
  · rintro (hstrip | ⟨hlen, hname⟩)
    · obtain ⟨hp, -, hlen⟩ := stripVersion_of_readsBefore hstrip
      refine ⟨?_, updateName_of_strip hp⟩
      have := hlen rfl
      rwa [List.length_reverse] at this
    · refine ⟨hlen, hname.resolve_left fun hnil => ?_⟩
      exact updateName_ne_nil (List.ne_nil_of_length_pos (Nat.lt_of_succ_lt hlen)) hnil
  · rintro ⟨hlen, hname⟩
    exact .inr ⟨hlen, .inr hname⟩

/-- The list after one extension of `.option arch`. -/
theorem Safe.change (rps : Rps) (h : Safe st.list) {p rest : List Char} {t : Token} (ht : LetThrough true p t rest)
    (removed : Bool) : Safe (if removed then { st with list := riscvRemoveSubset st.list t.name }
      else riscvParseAddSubset rps st t.name t.major t.minor true).list := by
  split
  · exact h.remove _
  · exact h.parseAddSubset ht.safe _ _ _

theorem updateLoop_safe (hcheck : rps.checkUnknownPrefixedExt = true) (h : Safe st.list) {fuel : Nat}
    (p : List Char) : Safe (updateLoop rps str fuel p st).2.list := by
  induction fuel generalizing p st with
  | zero => exact h
  | succ fuel ih =>
    unfold updateLoop
    dsimp only
    split
    · exact parse_safe .nil hcheck _
    · rename_i removed q hsigned
      split
      · exact h
      · rename_i t rest htoken
        have hnext := h.change rps (nextUpdate_letThrough (hcheck ▸ htoken)) removed
        split
        · exact ih hnext _
        · exact hnext.closed rps

/-- `.option arch` stays inside the table and the copies exactly under its condition. -/
theorem updateLoop_inRange_iff (hcheck : rps.checkUnknownPrefixedExt = true) (h : Safe st.list) {fuel : Nat}
    (p : List Char) :
    AllInTable (updateLoopAccesses rps str fuel p st) ∧ updateLoopReadsBefore rps str fuel p = false ↔
      UpdateInRange rps str fuel p := by
  induction fuel generalizing p st with
  | zero => exact ⟨fun _ => trivial, fun _ => ⟨.nil, rfl⟩⟩
  | succ fuel ih =>
    unfold updateLoopAccesses updateLoopReadsBefore UpdateInRange
    dsimp only
    split
    · rw [parseAccesses_iff Safe.nil.tame, parseReadsBefore_eq]
      exact and_iff_left rfl
    · rename_i removed q hsigned
      rw [AllInTable.append_iff, nextUpdateAccesses_iff, Bool.or_eq_false_iff, nextUpdateReadsBefore_iff]
      rw [and_and_and_comm, and_assoc]
      refine and_congr_right fun _ => and_congr_right fun _ => ?_
      split
      · exact ⟨fun _ => trivial, fun _ => ⟨.nil, rfl⟩⟩
      · rename_i t rest htoken
        have hlet := nextUpdate_letThrough (hcheck ▸ htoken)
        have hnext := h.change rps hlet removed
        have hadd : AllInTable (if removed then [] else parseAddAccesses rps st t.name t.major t.minor true) := by
          split
          · exact .nil
          · exact h.parseAdd hlet.safe _ _ _
        rw [AllInTable.append_iff, and_iff_right hadd]
        split
        · exact ih hnext _
        · exact ⟨fun _ => trivial, fun _ => ⟨hnext.close, rfl⟩⟩

end Update

/-! ## The linker -/

section Names

variable {l l' : SubsetList}

/-- Only the names in a list matter. -/
theorem Firsts.of_names (h : Firsts l) (hwf : l'.Wf) (hnames : l'.nodes.map (·.name) = l.nodes.map (·.name)) :
    Firsts l' := by
  refine ⟨hwf, fun s hs => ?_⟩
  have hmem := List.mem_map_of_mem (f := (·.name)) hs
  rw [hnames] at hmem
  obtain ⟨t, ht, hname⟩ := List.mem_map.mp hmem
  exact hname ▸ h.firsts t ht

theorem Tame.of_names (h : Tame l) (hwf : l'.Wf) (hnames : l'.nodes.map (·.name) = l.nodes.map (·.name)) :
    Tame l' :=
  ⟨h.toFirsts.of_names hwf hnames, by rw [hnames]; exact h.few⟩

theorem Safe.of_names (h : Safe l) (hwf : l'.Wf) (hnames : l'.nodes.map (·.name) = l.nodes.map (·.name)) :
    Safe l' := by
  refine ⟨hwf, fun s hs => ?_⟩
  have hmem := List.mem_map_of_mem (f := (·.name)) hs
  rw [hnames] at hmem
  obtain ⟨t, ht, hname⟩ := List.mem_map.mp hmem
  exact hname ▸ h.names t ht

theorem write_names (l : SubsetList) (s : Subset) : (l.write s).nodes.map (·.name) = l.nodes.map (·.name) := by
  rw [SubsetList.write, List.map_map]
  exact List.map_congr_left fun t _ => write_name s t

end Names

section Merge

variable {st : MergeState} {l : SubsetList} {n : Name}

/-- All three lists are safe. -/
structure SafeLists (st : MergeState) : Prop where
  input : Safe st.inSubsets
  output : Safe st.outSubsets
  merged : Safe st.mergedSubsets

theorem Safe.find (h : Safe l) {s : Subset} (hfind : l.find n = some s) : SafeName s.name := by
  rw [find_eq h.toWf] at hfind
  exact h.names s (entry_mem hfind)

theorem SafeLists.addMerged (h : SafeLists st) {s : Subset} (hs : SafeName s.name) : SafeLists (st.addMerged s) :=
  ⟨h.input, h.output, h.merged.add hs _ _⟩

theorem SafeLists.mergeBoth (h : SafeLists st) (s : Subset) {out : Subset} (hout : SafeName out.name) :
    SafeLists (st.mergeBoth s out) := by
  have hwrite : Safe (st.outSubsets.write (riscvUpdateSubsetVersion s out)) :=
    h.output.of_names (h.output.toWf.write _) (write_names _ _)
  rw [← riscvUpdateSubsetVersion_name s out] at hout
  exact ⟨h.input, hwrite, h.merged.add hout _ _⟩

theorem Safe.head (h : Safe l) {s : Subset} {rest : List Subset} (hnodes : l.nodes = s :: rest) : SafeName s.name :=
  h.names s (by rw [hnodes]; exact List.mem_cons_self)

/-- One round over the standard extensions. -/
theorem SafeLists.letter (h : SafeLists st) {c : Char} (hc : GoodName [c]) :
    AllInTable (mergeLetterAccesses st c) ∧ SafeLists (mergeStdLetter st c) := by
  constructor
  · rw [mergeLetterAccesses, AllInTable.append_iff, AllInTable.append_iff]
    refine ⟨⟨h.input.lookup hc.safe, h.output.lookup hc.safe⟩, ?_⟩
    split
    · exact .nil
    · rename_i merged hmerged
      refine h.merged.lookup ?_
      rcases Option.or_eq_some_iff.mp hmerged with hout | ⟨-, hin⟩
      · exact h.output.find hout
      · exact h.input.find hin
  · unfold mergeStdLetter
    split
    · exact h
    · rename_i hout
      exact h.mergeBoth _ (h.output.find hout)
    · rename_i hout
      exact h.addMerged (h.output.find hout)
    · rename_i hin _
      exact h.addMerged (h.input.find hin)

theorem SafeLists.letters (h : SafeLists st) {cs : List Char} (hcs : ∀ c ∈ cs, GoodName [c]) :
    AllInTable (mergeLettersAccesses cs st) ∧ SafeLists (cs.foldl mergeStdLetter st) := by
  induction cs generalizing st with
  | nil => exact ⟨.nil, h⟩
  | cons c cs ih =>
    obtain ⟨haccess, hnext⟩ := h.letter (hcs c List.mem_cons_self)
    obtain ⟨hrest, hend⟩ := ih hnext fun d hd => hcs d (List.mem_cons_of_mem c hd)
    rw [mergeLettersAccesses, AllInTable.append_iff]
    exact ⟨⟨haccess, hrest⟩, hend⟩

theorem SafeLists.std (h : SafeLists st) (inArch outArch : List Char) :
    AllInTable (mergeStdAccesses inArch outArch st) ∧
      ∀ st', riscvMergeStdExt inArch outArch st = .ok st' → SafeLists st' := by
  have hletters : ∀ c ∈ standardExts, GoodName [c] := by decide
  unfold mergeStdAccesses
  constructor
  · split
    · rename_i s rest out outRest _ _ hout
      have hname := h.output.head hout
      rw [AllInTable.append_iff]
      exact ⟨h.merged.lookup hname, ((h.mergeBoth s hname).letters hletters).1⟩
    · exact .nil
  · intro st' hok
    unfold riscvMergeStdExt at hok
    split at hok
    · cases hok
    · cases hok
    · rename_i s rest out outRest hin hout
      split at hok
      · cases hok
      · split at hok
        · cases hok
        · split at hok
          · cases hok
          · cases hok
            exact ((h.mergeBoth s (h.output.head hout)).letters hletters).2

theorem SafeLists.tail (h : SafeLists st) {rest : List Subset} (hrest : ∀ s ∈ rest, SafeName s.name) :
    AllInTable (mergeTailAccesses rest st) := by
  induction rest generalizing st with
  | nil => exact .nil
  | cons s rest ih =>
    have hs := hrest s List.mem_cons_self
    rw [mergeTailAccesses, AllInTable.append_iff]
    exact ⟨h.merged.lookup hs, ih (h.addMerged hs) fun t ht => hrest t (List.mem_cons_of_mem s ht)⟩

/-- The loop over the other extensions. -/
theorem SafeLists.multi (h : SafeLists st) {fuel : Nat} {rest outRest : List Subset}
    (hrest : ∀ s ∈ rest, SafeName s.name) (hout : ∀ s ∈ outRest, SafeName s.name) :
    AllInTable (mergeMultiAccesses fuel rest outRest st) := by
  induction fuel generalizing rest outRest st with
  | zero => exact .nil
  | succ fuel ih =>
    unfold mergeMultiAccesses
    split
    · exact .nil
    · rename_i s rest out outRest heq
      cases heq
      have hs := hrest s List.mem_cons_self
      have ho := hout out List.mem_cons_self
      have hrest' : ∀ t ∈ rest, SafeName t.name := fun t ht => hrest t (List.mem_cons_of_mem s ht)
      have hout' : ∀ t ∈ outRest, SafeName t.name := fun t ht => hout t (List.mem_cons_of_mem out ht)
      rw [AllInTable.append_iff, compareAccesses_inTable_iff hs.first ho.first]
      refine ⟨fun hsz hoz => ⟨hs.second hsz, ho.second hoz⟩, ?_⟩
      split
      · rw [AllInTable.append_iff]
        exact ⟨h.merged.lookup hs, ih (h.addMerged hs) hrest' hout⟩
      · rw [AllInTable.append_iff]
        exact ⟨h.merged.lookup ho, ih (h.addMerged ho) hrest hout'⟩
      · rw [AllInTable.append_iff]
        exact ⟨h.merged.lookup ho, ih (h.mergeBoth s ho) hrest' hout'⟩
    · exact h.tail hrest
    · exact h.tail hout

theorem Safe.multi (h : Safe l) : ∀ s ∈ l.multi, SafeName s.name := by
  intro s hs
  exact h.names s (List.mem_of_mem_tail ((List.dropWhile_sublist _).subset hs))

theorem SafeLists.parsed (h : SafeLists st) (inArch outArch : List Char) (xlenIn xlenOut : Nat) :
    AllInTable (mergeParsedAccesses inArch outArch xlenIn xlenOut st) := by
  rw [mergeParsedAccesses]
  split
  · exact .nil
  · obtain ⟨hstd, hnext⟩ := h.std inArch outArch
    rw [AllInTable.append_iff]
    refine ⟨hstd, ?_⟩
    split
    · exact .nil
    · rename_i st' hok
      have hlists := hnext st' hok
      exact hlists.multi hlists.input.multi hlists.output.multi

/-- The linker stays inside the table exactly if the parser does for both strings. -/
theorem mergeArchAccesses_iff (hin : Tame st.inSubsets) (hout : Tame st.outSubsets) (inArch outArch : List Char) :
    AllInTable (mergeArchAccesses inArch outArch st) ↔ ParseInRange riscvRpsLd (some inArch) st.inSubsets ∧
      ((riscvParseSubset riscvRpsLd (some inArch) { list := st.inSubsets }).1 = true →
        ParseInRange riscvRpsLd (some outArch) st.outSubsets) := by
  have hin' : Tame ({ list := st.inSubsets } : ParseState).list := hin
  have hout' : Tame ({ list := st.outSubsets } : ParseState).list := hout
  rw [mergeArchAccesses, AllInTable.append_iff, parseAccesses_iff hin']
  refine and_congr_right fun hrange => ?_
  split
  · rename_i hfail
    rw [hfail]
    exact ⟨fun _ hno => absurd hno Bool.false_ne_true, fun _ => .nil⟩
  · rename_i hok
    rw [Bool.not_eq_false] at hok
    rw [AllInTable.append_iff, parseAccesses_iff hout', imp_iff_right hok]
    refine and_iff_left_of_imp fun hrange' => ?_
    split
    · exact .nil
    · rename_i hok'
      rw [Bool.not_eq_false] at hok'
      have hempty : Safe { st.mergedSubsets with nodes := [], tail := none } :=
        ⟨⟨.nil, rfl⟩, fun s hs => absurd hs List.not_mem_nil⟩
      exact SafeLists.parsed ⟨(parse_tame hin' hrange).2 hok, (parse_tame hout' hrange').2 hok', hempty⟩ _ _ _ _

end Merge

/-! ## Every call -/

/-- The lists that calls leave, from an empty one on; the linker writes versions to them. -/
inductive Held (rps : Rps) : SubsetList → Prop
  | release : Held rps {}
  | parse {st : ParseState} {arch : Option (List Char)} (h : Held rps st.list)
      (hin : AllInTable (parseAccesses rps arch st)) : Held rps (riscvParseSubset rps arch st).2.list
  | update {st : ParseState} (h : Held rps st.list) (hcheck : rps.checkUnknownPrefixedExt = true)
      (str : List Char) : Held rps (riscvUpdateSubset rps str st).2.list
  | copy {l l' : SubsetList} (h : Held rps l) (hne : l.nodes ≠ []) {junk : Option Name}
      (hcopy : riscvCopySubsetList junk l = some l') : Held rps l'
  | setArchStr {l : SubsetList} (h : Held rps l) (archStr : Option (List Char)) : Held rps { l with archStr }
  | write {l : SubsetList} (h : Held rps l) (s : Subset) : Held rps (l.write s)

section Held

variable {rps : Rps} {l : SubsetList}

/-- What holds of the lists that calls leave. -/
theorem Held.tame (h : Held rps l) : Tame l ∧ (rps.checkUnknownPrefixedExt = true → Safe l) := by
  induction h with
  | release => exact ⟨Safe.nil.tame, fun _ => .nil⟩
  | parse h hin ih =>
    exact ⟨(parse_tame ih.1 ((parseAccesses_iff ih.1 _).mp hin)).1, fun hcheck => parse_safe (ih.2 hcheck) hcheck _⟩
  | @update st h hcheck str ih =>
    have hsafe : Safe (riscvUpdateSubset rps str st).2.list := updateLoop_safe hcheck (ih.2 hcheck) str
    exact ⟨hsafe.tame, fun _ => hsafe⟩
  | @copy l l' h hne junk hcopy ih =>
    have hl' : copiedSubsetList junk l = l' := (riscvCopySubsetList_eq_some hcopy).symm
    have hwf := copiedSubsetList_wf ih.1.toWf hne junk
    rw [← hl']
    exact ⟨ih.1.of_names hwf rfl, fun hcheck => (ih.2 hcheck).of_names hwf rfl⟩
  | @setArchStr l h archStr ih =>
    have hwf : ({ l with archStr } : SubsetList).Wf := ⟨ih.1.ordered, ih.1.tail⟩
    exact ⟨ih.1.of_names hwf rfl, fun hcheck => (ih.2 hcheck).of_names hwf rfl⟩
  | write h s ih =>
    have hwf := ih.1.toWf.write s
    exact ⟨ih.1.of_names hwf (write_names _ s), fun hcheck => (ih.2 hcheck).of_names hwf (write_names _ s)⟩

end Held

/-- Every call stays inside `riscv_ext_order` and inside the copies of the names exactly under its condition: of
the parser, of `.option arch`, where unknown extensions are refused, and of the linker. -/
theorem inRange_iff (rps : Rps) (st : ParseState) (h : Held rps st.list) (ld : MergeState)
    (hin : Held riscvRpsLd ld.inSubsets) (hout : Held riscvRpsLd ld.outSubsets) :
    (∀ arch : Option (List Char), AllInTable (parseAccesses rps arch st) ∧ parseReadsBefore rps arch = false ↔
      ParseInRange rps arch st.list) ∧
    (rps.checkUnknownPrefixedExt = true → ∀ str : List Char,
      AllInTable (updateAccesses rps str st) ∧ updateReadsBefore rps str = false ↔
        UpdateInRange rps str (str.length + 1) str) ∧
    (∀ inArch outArch : List Char, AllInTable (mergeArchAccesses inArch outArch ld) ↔
      ParseInRange riscvRpsLd (some inArch) ld.inSubsets ∧
        ((riscvParseSubset riscvRpsLd (some inArch) { list := ld.inSubsets }).1 = true →
          ParseInRange riscvRpsLd (some outArch) ld.outSubsets)) := by
  refine ⟨fun arch => ?_, fun hcheck str => ?_, fun inArch outArch => ?_⟩
  · rw [parseReadsBefore_eq, and_iff_left rfl]
    exact parseAccesses_iff h.tame.1 arch
  · exact updateLoop_inRange_iff hcheck (h.tame.2 hcheck) str
  · exact mergeArchAccesses_iff hin.tame.1 hout.tame.1 inArch outArch

/-- Strings that do not stay inside: one with a character that is no letter, one that adds such a character, two z
extensions without a letter behind the z, and one that adds p with two versions. -/
theorem strings_out_of_range :
    ¬AllInTable (parseAccesses gasRps (some "rv64i!".toList) {}) ∧
      ¬AllInTable (updateAccesses gasRps "+1".toList {}) ∧
      ¬AllInTable (parseAccesses riscvRpsLd (some "rv64i2p0_z1p0".toList) {}) ∧
      updateReadsBefore gasRps "+p2p0".toList = true := by
  decide +kernel

/-- An assembler that reads rv64i_zba and then adds m. -/
theorem zba_m_inRange :
    ParseInRange gasRps (some "rv64i_zba".toList) {} ∧ UpdateInRange gasRps "+m".toList 3 "+m".toList ∧
      ParseInRange riscvRpsLd (some "rv64i2p1_zba1p0".toList) {} := by
  -- one evaluation, so that each string is read once
  obtain ⟨hzba, hm, hmerged⟩ :
      (AllInTable (parseAccesses gasRps (some "rv64i_zba".toList) {}) ∧
        parseReadsBefore gasRps (some "rv64i_zba".toList) = false) ∧
      (AllInTable (updateAccesses gasRps "+m".toList (riscvParseSubset gasRps (some "rv64i_zba".toList) {}).2) ∧
        updateReadsBefore gasRps "+m".toList = false) ∧
      AllInTable (mergeArchAccesses "rv64i2p1_zba1p0".toList "rv64i2p1_zba1p0".toList {}) := by
    decide +kernel
  obtain ⟨hparse, -, hmerge⟩ := inRange_iff gasRps {} .release {} .release .release
  have hheld : Held gasRps (riscvParseSubset gasRps (some "rv64i_zba".toList) {}).2.list := .parse .release hzba.1
  obtain ⟨-, hupdate, -⟩ := inRange_iff gasRps _ hheld {} .release .release
  exact ⟨(hparse _).mp hzba, (hupdate rfl "+m".toList).mp hm, ((hmerge _ _).mp hmerged).1⟩

end RiscvBinutils.Isa
