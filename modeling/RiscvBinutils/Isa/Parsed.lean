/-
What `riscv_parse_subset` leaves: the entries of the extensions it reads, and what they imply.
-/
import RiscvBinutils.Isa.Scan

namespace RiscvBinutils.Isa

open Std RiscvBinutils.Base

/-! ## Adding the extensions of a string -/

section Add

variable (rps : Rps)

/-- The entry an extension of the string makes: g has no version, and one whose version is not known makes
none. -/
def tokenEntry (t : Token) : Option Subset :=
  if t.name = ['g'] then some (impliedEntry rps.isaSpec t.name)
  else
    let v := resolveVersion rps.isaSpec t.name t.major t.minor
    if v.1 = riscvUnknownVersion ∨ v.2 = riscvUnknownVersion then none else some ⟨t.name, v.1, v.2⟩

/-- The errors about an extension of the string. -/
def tokenErrors (t : Token) : List ParseError :=
  if (tokenEntry rps t).isSome then []
  else if t.name.head? = some 'x' then [.xVersion t.name]
  else if t.name ≠ "zicsr".toList ∧ t.name ≠ "zifencei".toList then [.defaultVersion t.name]
  else []

/-- The entries of the extensions, in the order of the string. -/
def tokenEntries (ts : List Token) : List Subset := ts.filterMap (tokenEntry rps)

variable {rps}

theorem tokenEntry_name {t : Token} {s : Subset} (h : tokenEntry rps t = some s) : s.name = t.name := by
  unfold tokenEntry at h
  split at h
  · cases h
    rfl
  · dsimp only at h
    split at h
    · cases h
    · cases h
      rfl

theorem addToken_eq (st : ParseState) (t : Token) :
    addToken rps st t =
      { st with
        list := (tokenEntry rps t).elim st.list fun s => riscvAddSubset st.list s.name s.major s.minor
        errors := st.errors ++ tokenErrors rps t } := by
  unfold addToken tokenErrors
  by_cases hg : t.name = ['g']
  · have hentry : tokenEntry rps t = some (impliedEntry rps.isaSpec t.name) := if_pos hg
    rw [if_pos hg, riscvParseAddSubset_implicit, hentry]
    simp
    rfl
  · rw [if_neg hg, riscvParseAddSubset]
    unfold tokenEntry
    rw [if_neg hg]
    by_cases hv : (resolveVersion rps.isaSpec t.name t.major t.minor).1 = riscvUnknownVersion ∨
        (resolveVersion rps.isaSpec t.name t.major t.minor).2 = riscvUnknownVersion
    · rw [if_pos ⟨rfl, hv⟩, if_pos hv]
      split
      · simp [ParseState.report]
      · split
        · simp [ParseState.report, *]
        · simp [*]
    · rw [if_neg fun h => hv h.2, if_neg hv]
      simp

/-- The list after some extensions. -/
structure Added (rps : Rps) (ts : List Token) (st st' : ParseState) : Prop where
  parsed : st'.list.Parsed
  nodes : st'.list.nodes = (tokenEntries rps ts).foldl
    (fun l s => insertNew riscvCompareSubsets Subset.name s l) st.list.nodes
  archStr : st'.list.archStr = st.list.archStr
  xlen : st'.xlen = st.xlen
  errors : st'.errors = st.errors ++ ts.flatMap (tokenErrors rps)

theorem addToken_added {st : ParseState} (hl : st.list.Parsed) {t : Token} (ht : ParsedName t.name) :
    Added rps [t] st (addToken rps st t) := by
  rw [addToken_eq]
  cases hentry : tokenEntry rps t with
  | none =>
    refine ⟨hl, ?_, rfl, rfl, ?_⟩
    · rw [tokenEntries, List.filterMap_cons_none hentry]
      rfl
    · rw [List.flatMap_singleton]
  | some s =>
    refine ⟨hl.add ?_ _ _, ?_, riscvAddSubset_archStr _ _ _ _, rfl, ?_⟩
    · rw [tokenEntry_name hentry]
      exact ht
    · rw [tokenEntries, List.filterMap_cons_some hentry]
      exact riscvAddSubset_nodes hl.toWf _ _ _
    · rw [List.flatMap_singleton]

theorem foldl_addToken {ts : List Token} {st : ParseState} (hl : st.list.Parsed) (hts : ∀ t ∈ ts, ParsedName t.name) :
    Added rps ts st (ts.foldl (addToken rps) st) := by
  induction ts generalizing st with
  | nil => exact ⟨hl, rfl, rfl, rfl, by simp⟩
  | cons t ts ih =>
    have h : Added rps [t] st _ := addToken_added hl (hts t List.mem_cons_self)
    have h' := ih h.parsed fun u hu => hts u (List.mem_cons_of_mem t hu)
    refine ⟨h'.parsed, ?_, h'.archStr.trans h.archStr, h'.xlen.trans h.xlen, ?_⟩
    · have hcons : tokenEntries rps (t :: ts) = tokenEntries rps [t] ++ tokenEntries rps ts := by
        rw [tokenEntries, ← List.singleton_append, List.filterMap_append]
        rfl
      rw [List.foldl_cons, h'.nodes, h.nodes, hcons, List.foldl_append]
    · rw [List.foldl_cons, h'.errors, h.errors, List.append_assoc, ← List.flatMap_append, List.singleton_append]

/-- A search in the list goes through the entries in the order of the string. -/
theorem Added.entry_eq {ts : List Token} {st st' : ParseState} (h : Added rps ts st st') (hl : st.list.Parsed)
    (k : Name) : entry k st'.list.nodes = entry k (st.list.nodes ++ tokenEntries rps ts) := by
  rw [h.nodes]
  exact findKey_foldl_insertNew hl.ordered _ k

end Add

/-! ## The whole parse -/

section Parse

variable {rps : Rps} {arch : List Char} {st st' : ParseState}

/-- The parts of an ISA string that is accepted as far as its form goes: `rv32` or `rv64`, and extensions of
which the first is e, i or g. -/
structure ArchForm (rps : Rps) (arch : List Char) (xlen : Nat) (ts : List Token) : Prop where
  lower : arch.any isUpper = false
  form : ∃ p, archXlen arch = some (xlen, p) ∧
    (p.head? = some 'e' ∨ p.head? = some 'i' ∨ p.head? = some 'g') ∧
    scanExtensions rps.checkUnknownPrefixedExt arch p.length p = (ts, none)

theorem archXlen_suffix {xlen : Nat} {p : List Char} (h : archXlen arch = some (xlen, p)) :
    p = arch.drop 4 ∧ (xlen = 32 ∨ xlen = 64) := by
  unfold archXlen at h
  split at h
  · cases h
    exact ⟨rfl, .inl rfl⟩
  · split at h
    · cases h
      exact ⟨rfl, .inr rfl⟩
    · cases h

/-- The extensions of a string without upper-case letters have none. -/
theorem lower_of_archXlen {arch p : List Char} {xlen : Nat} (hupper : arch.any isUpper = false)
    (hxlen : archXlen arch = some (xlen, p)) : ∀ c ∈ p, isUpper c = false := by
  intro c hc
  rw [(archXlen_suffix hxlen).1] at hc
  exact Bool.not_eq_true _ ▸ List.any_eq_false.mp hupper c (List.mem_of_mem_drop hc)

theorem ArchForm.tokens {xlen : Nat} {ts : List Token} (h : ArchForm rps arch xlen ts) : ∀ t ∈ ts,
    CleanName t.name ∧ TokenVersion t.major t.minor ∧ (rps.checkUnknownPrefixedExt = true →
      riscvGetPrefixClass t.name ≠ .single → riscvRecognizedPrefixedExt t.name = true) := by
  obtain ⟨p, hxlen, -, hscan⟩ := h.form
  have hclean : ∀ t ∈ (scanExtensions rps.checkUnknownPrefixedExt arch p.length p).1, _ :=
    scanExtensions_clean (lower_of_archXlen h.lower hxlen)
  rwa [hscan] at hclean

/-- The state in which the implied extensions are added. -/
def namedState (rps : Rps) (xlen : Nat) (ts : List Token) (st : ParseState) : ParseState :=
  ts.foldl (addToken rps) { st with xlen }

/-- A string of the right form is accepted unless there are conflicts. -/
theorem ArchForm.parse {xlen : Nat} {ts : List Token} (h : ArchForm rps arch xlen ts) (st : ParseState) :
    riscvParseSubset rps (some arch) st =
      riscvParseCheckConflicts (riscvParseAddImplicitSubsets rps (namedState rps xlen ts st)) := by
  obtain ⟨p, hxlen, hfirst, hscan⟩ := h.form
  rw [riscvParseSubset, if_neg (by rw [h.lower]; exact Bool.false_ne_true), hxlen]
  dsimp only
  rw [riscvParseExtensions, if_pos hfirst, hscan]
  rfl

/-- A string that is accepted has the right form. -/
theorem archForm_of_parse (h : riscvParseSubset rps (some arch) st = (true, st')) :
    ∃ xlen ts, ArchForm rps arch xlen ts := by
  rw [riscvParseSubset] at h
  split at h
  · cases h
  · rename_i hlower
    split at h
    · cases h
    · rename_i xlen p hxlen
      rw [riscvParseExtensions] at h
      split at h
      · rename_i st₁ hext
        cases h
      · rename_i st₁ hext
        split at hext
        · rename_i hfirst
          cases hscan : scanExtensions rps.checkUnknownPrefixedExt arch p.length p with
          | mk ts err =>
            rw [hscan] at hext
            cases err with
            | none => exact ⟨xlen, ts, Bool.not_eq_true _ ▸ hlower, p, hxlen, hfirst, hscan⟩
            | some e => cases hext
        · cases hext

theorem reportIf_list (st : ParseState) (b : Bool) (e : ParseError) :
    (st.reportIf b e).list = st.list ∧ (st.reportIf b e).xlen = st.xlen := by
  unfold ParseState.reportIf
  split <;> exact ⟨rfl, rfl⟩

/-- The check leaves the list alone, and reports nothing when it succeeds. -/
theorem riscvParseCheckConflicts_list (st : ParseState) :
    (riscvParseCheckConflicts st).2.list = st.list ∧ (riscvParseCheckConflicts st).2.xlen = st.xlen := by
  suffices h : ∀ (found : List (Bool × ParseError)) (st : ParseState),
      (found.foldl (fun st c => st.reportIf c.1 c.2) st).list = st.list ∧
        (found.foldl (fun st c => st.reportIf c.1 c.2) st).xlen = st.xlen from h _ st
  intro found
  induction found with
  | nil => exact fun st => ⟨rfl, rfl⟩
  | cons c found ih =>
    intro st
    obtain ⟨hlist, hxlen⟩ := ih (st.reportIf c.1 c.2)
    obtain ⟨hlist', hxlen'⟩ := reportIf_list st c.1 c.2
    exact ⟨hlist.trans hlist', hxlen.trans hxlen'⟩

/-- No two extensions of the list are in conflict. -/
def NoConflict (l : SubsetList) (xlen : Nat) : Prop := (conflicts l xlen).any (·.1) = false

theorem riscvParseCheckConflicts_of_noConflict (h : NoConflict st.list st.xlen) :
    riscvParseCheckConflicts st = (true, st) := by
  suffices hfold : ∀ found : List (Bool × ParseError), found.any (·.1) = false →
      found.foldl (fun st c => st.reportIf c.1 c.2) st = st by
    rw [riscvParseCheckConflicts, hfold _ h, show (conflicts st.list st.xlen).any (·.1) = false from h]
    rfl
  intro found
  induction found with
  | nil => exact fun _ => rfl
  | cons c found ih =>
    intro hany
    rw [List.any_cons, Bool.or_eq_false_iff] at hany
    rw [List.foldl_cons, ParseState.reportIf, hany.1, if_neg Bool.false_ne_true]
    exact ih hany.2

/-- A string is accepted exactly if it has the right form and there are no conflicts. -/
theorem riscvParseSubset_eq_true_iff :
    riscvParseSubset rps (some arch) st = (true, st') ↔ ∃ xlen ts, ArchForm rps arch xlen ts ∧
      st' = riscvParseAddImplicitSubsets rps (namedState rps xlen ts st) ∧ NoConflict st'.list st'.xlen := by
  constructor
  · intro h
    obtain ⟨xlen, ts, hform⟩ := archForm_of_parse h
    rw [hform.parse] at h
    have hnone : NoConflict (riscvParseAddImplicitSubsets rps (namedState rps xlen ts st)).list
        (riscvParseAddImplicitSubsets rps (namedState rps xlen ts st)).xlen := by
      have hfst := congrArg Prod.fst h
      exact Bool.not_eq_true' _ |>.mp hfst
    rw [riscvParseCheckConflicts_of_noConflict hnone] at h
    cases h
    exact ⟨xlen, ts, hform, rfl, hnone⟩
  · rintro ⟨xlen, ts, hform, rfl, hnone⟩
    rw [hform.parse, riscvParseCheckConflicts_of_noConflict hnone]

/-- What stands in the list after an accepted string. -/
structure Accepted (rps : Rps) (ts : List Token) (st st' : ParseState) : Prop where
  parsed : st'.list.Parsed
  closure : ∃ nodes, Ordered riscvCompareSubsets Subset.name nodes ∧ (∀ s ∈ nodes, ParsedName s.name) ∧
    (∀ k, entry k nodes = entry k (st.list.nodes ++ tokenEntries rps ts)) ∧
    IsClosure rps.isaSpec riscvImplicitSubsets nodes st'.list.nodes
  archStr : st'.list.archStr = st.list.archStr
  errors : st'.errors = st.errors ++ ts.flatMap (tokenErrors rps)

theorem ArchForm.accepted {xlen : Nat} {ts : List Token} (h : ArchForm rps arch xlen ts) (hl : st.list.Parsed) :
    Accepted rps ts st (riscvParseAddImplicitSubsets rps (namedState rps xlen ts st)) ∧
      (riscvParseAddImplicitSubsets rps (namedState rps xlen ts st)).xlen = xlen := by
  have hadded : Added rps ts { st with xlen } (namedState rps xlen ts st) :=
    foldl_addToken hl fun t ht => (h.tokens t ht).1.parsed
  obtain ⟨-, hgrow, hclosure⟩ := @addImplicitSubsets_spec rps _ _ riscvImplicitSubsets_good hadded.parsed
  refine ⟨⟨hgrow.parsed, ⟨_, hadded.parsed.ordered, hadded.parsed.names, fun k => hadded.entry_eq hl k, hclosure⟩,
    hgrow.archStr.trans hadded.archStr, hgrow.errors.trans hadded.errors⟩, hgrow.xlen.trans hadded.xlen⟩

end Parse

end RiscvBinutils.Isa
