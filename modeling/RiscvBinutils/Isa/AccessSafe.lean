/-
When an ISA string leads to an access outside of `riscv_ext_order` (bfd/elfxx-riscv.c).  A search reads the second
characters of the names it compares only if both are z extensions, and a search for a z extension always meets one
if there is one in the list; so the names of the z extensions that are looked for, in their order, decide.
-/
import RiscvBinutils.Isa.AccessRun

namespace RiscvBinutils.Isa

open Std RiscvBinutils.Base

/-! ## One search -/

section Search

variable {l : SubsetList} {n : Name}

/-- The first characters of the names of a list are lower-case letters. -/
structure Firsts (l : SubsetList) : Prop extends l.Wf where
  firsts : ∀ s ∈ l.nodes, InTable (charAt s.name)

/-- A search for `n` compares it with no z extension that would be read outside the table. -/
def Clear (nodes : List Subset) (n : Name) : Prop :=
  ∀ s ∈ nodes, riscvGetPrefixClass s.name = .z → riscvGetPrefixClass n = .z →
    InTable (charAt (s.name.drop 1)) ∧ InTable (charAt (n.drop 1))

theorem scanAccesses_inTable {nodes : List Subset} (hfirsts : ∀ s ∈ nodes, InTable (charAt s.name))
    (hn : InTable (charAt n)) (hclear : Clear nodes n) : AllInTable (scanAccesses n nodes) := by
  induction nodes with
  | nil => exact .nil
  | cons s rest ih =>
    have hs := List.mem_cons_self (a := s) (l := rest)
    rw [scanAccesses, AllInTable.append_iff]
    refine ⟨(compareAccesses_inTable_iff (hfirsts s hs) hn).mpr (hclear s hs), ?_⟩
    split
    · exact ih (fun t ht => hfirsts t (List.mem_cons_of_mem s ht)) fun t ht => hclear t (List.mem_cons_of_mem s ht)
    · exact .nil

theorem tail_mem (hl : l.Wf) {t : Name} (ht : l.tail = some t) : ∃ s ∈ l.nodes, s.name = t := by
  rw [hl.tail, Option.map_eq_some_iff] at ht
  obtain ⟨s, hs, hname⟩ := ht
  exact ⟨s, List.mem_of_getLast? hs, hname⟩

theorem lookupAccesses_inTable (hl : Firsts l) (hn : InTable (charAt n)) (hclear : Clear l.nodes n) :
    AllInTable (lookupAccesses l n) := by
  have hscan := scanAccesses_inTable hl.firsts hn hclear
  unfold lookupAccesses
  split
  · exact hscan
  · rename_i t ht
    obtain ⟨s, hs, rfl⟩ := tail_mem hl.toWf ht
    rw [AllInTable.append_iff]
    refine ⟨(compareAccesses_inTable_iff (hl.firsts s hs) hn).mpr (hclear s hs), ?_⟩
    split
    · exact .nil
    · exact hscan

/-- The z extensions are those with this rank. -/
theorem rank_eq_two_iff : rank n = 2 ↔ riscvGetPrefixClass n = .z := by
  unfold rank
  split
  · rename_i ho
    rw [class_eq_single_of_headOrder ho]
    simp
  · cases riscvGetPrefixClass n <;> simp [PrefixClass.order]

theorem rank_le_of_lt {a b : Name} (h : riscvCompareSubsets a b = .lt) : rank a ≤ rank b := by
  rw [riscvCompareSubsets_eq] at h
  by_contra hgt
  rw [compareLex, compareOn, Nat.compare_eq_gt.mpr (Nat.lt_of_not_le hgt)] at h
  cases h

theorem lt_of_rank_lt {a b : Name} (h : rank a < rank b) : riscvCompareSubsets a b = .lt := by
  rw [riscvCompareSubsets_eq, compareLex, compareOn, Nat.compare_eq_lt.mpr h]
  rfl

/-- What the scan for a z extension reads of the first one it meets. -/
theorem scanAccesses_meets {nodes : List Subset} (hfirsts : ∀ s ∈ nodes, InTable (charAt s.name))
    (hord : Ordered riscvCompareSubsets Subset.name nodes) (hn : InTable (charAt n))
    (hz : riscvGetPrefixClass n = .z) (hmeet : ∃ s ∈ nodes, riscvGetPrefixClass s.name = .z)
    (h : AllInTable (scanAccesses n nodes)) :
    ∃ s ∈ nodes, riscvGetPrefixClass s.name = .z ∧ InTable (charAt (s.name.drop 1)) ∧ InTable (charAt (n.drop 1)) := by
  induction nodes with
  | nil =>
    obtain ⟨s, hs, -⟩ := hmeet
    cases hs
  | cons s rest ih =>
    rw [scanAccesses, AllInTable.append_iff] at h
    obtain ⟨hcompare, hscan⟩ := h
    by_cases hsz : riscvGetPrefixClass s.name = .z
    · have hs := List.mem_cons_self (a := s) (l := rest)
      exact ⟨s, hs, hsz, (compareAccesses_inTable_iff (hfirsts s hs) hn).mp hcompare hsz hz⟩
    · -- the node is before a z extension, so it is before all of them
      obtain ⟨hbelow, hord'⟩ := List.pairwise_cons.mp hord
      have hmeet' : ∃ t ∈ rest, riscvGetPrefixClass t.name = .z := by
        obtain ⟨t, ht, htz⟩ := hmeet
        rcases List.mem_cons.mp ht with rfl | ht
        · exact absurd htz hsz
        · exact ⟨t, ht, htz⟩
      have hlt : riscvCompareSubsets s.name n = .lt := by
        obtain ⟨t, ht, htz⟩ := hmeet'
        have hle := rank_le_of_lt (hbelow t ht)
        have hne : rank s.name ≠ 2 := fun h => hsz (rank_eq_two_iff.mp h)
        rw [rank_eq_two_iff.mpr htz] at hle
        refine lt_of_rank_lt ?_
        rw [rank_eq_two_iff.mpr hz]
        omega
      rw [if_pos hlt] at hscan
      obtain ⟨t, ht, hrest⟩ := ih (fun t ht => hfirsts t (List.mem_cons_of_mem s ht)) hord' hmeet' hscan
      exact ⟨t, List.mem_cons_of_mem s ht, hrest⟩

/-- A search for a z extension meets one if there is one. -/
theorem lookupAccesses_meets (hl : Firsts l) (hn : InTable (charAt n)) (hz : riscvGetPrefixClass n = .z)
    (hmeet : ∃ s ∈ l.nodes, riscvGetPrefixClass s.name = .z) (h : AllInTable (lookupAccesses l n)) :
    ∃ s ∈ l.nodes, riscvGetPrefixClass s.name = .z ∧ InTable (charAt (s.name.drop 1)) ∧
      InTable (charAt (n.drop 1)) := by
  unfold lookupAccesses at h
  split at h
  · exact scanAccesses_meets hl.firsts hl.ordered hn hz hmeet h
  · rename_i t ht
    rw [AllInTable.append_iff] at h
    obtain ⟨hcompare, hscan⟩ := h
    split at hscan
    · -- the last node is before `n` and not before any z extension
      rename_i hlt
      obtain ⟨s, hs, rfl⟩ := tail_mem hl.toWf ht
      have hsz : riscvGetPrefixClass s.name = .z := by
        obtain ⟨u, hu, huz⟩ := hmeet
        have hle := rank_le_of_lt hlt
        rw [rank_eq_two_iff.mpr hz] at hle
        have hge : rank u.name ≤ rank s.name := by
          have hlast : l.nodes.getLast? = some s := by
            have htail := hl.tail
            rw [ht] at htail
            obtain ⟨s', hs', hname⟩ := Option.map_eq_some_iff.mp htail.symm
            have hsame := entry_of_mem hl.ordered (List.mem_of_getLast? hs')
            rw [hname, entry_of_mem hl.ordered hs] at hsame
            rw [hs', Option.some.inj hsame]
          obtain ⟨before, hsplit⟩ := List.getLast?_eq_some_iff.mp hlast
          have hord := hl.ordered
          rw [hsplit] at hu hord
          rcases List.mem_append.mp hu with hu | hu
          · exact rank_le_of_lt ((List.pairwise_append.mp hord).2.2 u hu s (List.mem_singleton_self s))
          · rw [List.mem_singleton.mp hu]
        rw [rank_eq_two_iff.mpr huz] at hge
        exact rank_eq_two_iff.mp (by omega)
      exact ⟨s, hs, hsz, (compareAccesses_inTable_iff (hl.firsts s hs) hn).mp hcompare hsz hz⟩
    · exact scanAccesses_meets hl.firsts hl.ordered hn hz hmeet hscan

end Search

/-! ## Searches one after the other -/

section ZRun

variable {l : SubsetList} {zs : List Name} {n : Name} {rps : Rps} {st : ParseState}

theorem FewOrGood.of_append {ms : List Name} (h : FewOrGood (zs ++ ms)) : FewOrGood zs := by
  rcases h with hgood | hfew
  · exact .inl fun n hn => hgood n (List.mem_append_left ms hn)
  · rw [List.length_append] at hfew
    exact .inr (by omega)

theorem zNames_append (ms ns : List Name) : zNames (ms ++ ns) = zNames ms ++ zNames ns := List.filter_append _ _

theorem zNames_z (hz : riscvGetPrefixClass n = .z) : zNames [n] = [n] := by
  simp [zNames, hz]

theorem zNames_other (hz : riscvGetPrefixClass n ≠ .z) : zNames [n] = [] := by
  simp [zNames, hz]

theorem mem_zNames {ns : List Name} : n ∈ zNames ns ↔ n ∈ ns ∧ riscvGetPrefixClass n = .z := by
  rw [zNames, List.mem_filter, decide_eq_true_iff]

/-- A list in which z extensions were looked for and added: those in it are among them, and there is one if there
were any. -/
structure ZRun (zs : List Name) (l : SubsetList) : Prop extends Firsts l where
  mem : ∀ s ∈ l.nodes, riscvGetPrefixClass s.name = .z → s.name ∈ zs
  present : zs ≠ [] → ∃ s ∈ l.nodes, riscvGetPrefixClass s.name = .z
  names : ∀ m ∈ zs, riscvGetPrefixClass m = .z

/-- One more search stays inside the table as long as there are few z extensions, or good ones. -/
theorem ZRun.lookup_iff (h : ZRun zs l) (hzs : FewOrGood zs) (hn : InTable (charAt n)) :
    AllInTable (lookupAccesses l n) ↔ FewOrGood (zs ++ zNames [n]) := by
  by_cases hz : riscvGetPrefixClass n = .z
  · rw [zNames_z hz]
    by_cases hnil : zs = []
    · subst hnil
      refine ⟨fun _ => .inr (Nat.le_refl 1), fun _ => lookupAccesses_inTable h.toFirsts hn fun s hs hsz => ?_⟩
      exact absurd (h.mem s hs hsz) List.not_mem_nil
    · constructor
      · intro hlookup
        obtain ⟨s, hs, hsz, hsecond, hnsecond⟩ := lookupAccesses_meets h.toFirsts hn hz (h.present hnil) hlookup
        left
        intro m hm
        rcases List.mem_append.mp hm with hm | hm
        · rcases hzs with hgood | hfew
          · exact hgood m hm
          · -- the only one is the one that was met
            have hsame : m = s.name := by
              obtain ⟨k, rfl⟩ := List.length_eq_one_iff.mp
                (Nat.le_antisymm hfew (List.length_pos_of_ne_nil hnil))
              rw [List.mem_singleton.mp hm, List.mem_singleton.mp (h.mem s hs hsz)]
            rw [hsame]
            exact fun _ => hsecond
        · rw [List.mem_singleton.mp hm]
          exact fun _ => hnsecond
      · intro hfew
        have hgood : ∀ m ∈ zs ++ [n], SecondInTable m := by
          refine hfew.resolve_right fun hlen => ?_
          have hpos := List.length_pos_of_ne_nil hnil
          rw [List.length_append, List.length_singleton] at hlen
          omega
        refine lookupAccesses_inTable h.toFirsts hn fun s hs hsz _ => ⟨?_, ?_⟩
        · exact hgood s.name (List.mem_append_left [n] (h.mem s hs hsz)) hsz
        · exact hgood n (List.mem_append_right zs (List.mem_singleton_self n)) hz
  · rw [zNames_other hz, List.append_nil]
    exact ⟨fun _ => hzs, fun _ => lookupAccesses_inTable h.toFirsts hn fun s _ _ hnz => absurd hnz hz⟩

theorem Firsts.add (h : Firsts l) (hn : InTable (charAt n)) (major minor : Int) :
    Firsts (riscvAddSubset l n major minor) := by
  refine ⟨riscvAddSubset_wf h.toWf n major minor, fun s hs => ?_⟩
  rcases mem_of_mem_add h.toWf hs with rfl | hs
  · exact hn
  · exact h.firsts s hs

theorem ZRun.add (h : ZRun zs l) (hn : InTable (charAt n)) (major minor : Int) :
    ZRun (zs ++ zNames [n]) (riscvAddSubset l n major minor) where
  toFirsts := h.toFirsts.add hn major minor
  mem := by
    intro s hs hsz
    rcases mem_of_mem_add h.toWf hs with rfl | hs
    · rw [zNames_z hsz]
      exact List.mem_append_right zs (List.mem_singleton_self n)
    · exact List.mem_append_left _ (h.mem s hs hsz)
  present := by
    intro hne
    by_cases hnil : zs = []
    · subst hnil
      have hz : riscvGetPrefixClass n = .z := by
        by_contra hz
        rw [zNames_other hz] at hne
        exact hne rfl
      have hnone : entry n l.nodes = none := by
        rw [entry, findKey_eq_none_iff]
        intro s hs heq
        have hrank := (key_eq_of_compare heq).1
        rw [rank_eq_two_iff.mpr hz, rank_eq_two_iff] at hrank
        exact absurd (h.mem s hs hrank) List.not_mem_nil
      exact ⟨_, mem_add_self h.toWf major minor hnone, hz⟩
    · obtain ⟨s, hs, hsz⟩ := h.present hnil
      exact ⟨s, mem_add_of_mem h.toWf n major minor hs, hsz⟩
  names := by
    intro m hm
    rcases List.mem_append.mp hm with hm | hm
    · exact h.names m hm
    · exact (mem_zNames.mp hm).2

/-! ## The extensions of a string -/

theorem ZRun.parseAdd (rps : Rps) (h : ZRun zs st.list) (hn : InTable (charAt n)) (major minor : Int) :
    ZRun (zs ++ zNames [n]) (riscvParseAddSubset rps st n major minor true).list := by
  rw [riscvParseAddSubset, if_neg (by simp)]
  exact h.add hn _ _

theorem ZRun.parseAdd_iff (rps : Rps) (h : ZRun zs st.list) (hzs : FewOrGood zs) (hn : InTable (charAt n))
    (major minor : Int) :
    AllInTable (parseAddAccesses rps st n major minor true) ↔ FewOrGood (zs ++ zNames [n]) := by
  rw [parseAddAccesses, if_neg (by simp)]
  exact h.lookup_iff hzs hn

/-- The name of the entry that an extension of the string makes. -/
def tokenNames (rps : Rps) (t : Token) : List Name := (tokenEntry rps t).toList.map (·.name)

theorem tokenNames_cons (t : Token) (ts : List Token) :
    (tokenEntries rps (t :: ts)).map (·.name) = tokenNames rps t ++ (tokenEntries rps ts).map (·.name) := by
  rw [tokenNames, ← List.map_append, tokenEntries, tokenEntries, List.filterMap_cons]
  cases tokenEntry rps t <;> rfl

theorem ZRun.token (h : ZRun zs st.list) {t : Token} (ht : ParsedName t.name) :
    ZRun (zs ++ zNames (tokenNames rps t)) (addToken rps st t).list := by
  rw [addToken_eq, tokenNames]
  cases hentry : tokenEntry rps t with
  | none =>
    have hnone : zs ++ zNames ((none : Option Subset).toList.map (·.name)) = zs := List.append_nil zs
    rw [hnone]
    exact h
  | some s =>
    have hs : InTable (charAt s.name) := by
      rw [tokenEntry_name hentry]
      exact ht.inTable
    exact h.add hs s.major s.minor

theorem ZRun.token_iff (h : ZRun zs st.list) (hzs : FewOrGood zs) {t : Token} (ht : ParsedName t.name)
    (ts : List Token) : AllInTable (tokensAccesses rps (t :: ts) st) ↔
      FewOrGood (zs ++ zNames (tokenNames rps t)) ∧ AllInTable (tokensAccesses rps ts (addToken rps st t)) := by
  rw [tokensAccesses, AllInTable.append_iff]
  refine and_congr_left fun _ => ?_
  rw [tokenNames, tokenEntry]
  by_cases hg : t.name = ['g']
  · rw [if_pos hg, if_pos hg]
    exact h.parseAdd_iff rps hzs ht.inTable riscvUnknownVersion riscvUnknownVersion
  · rw [if_neg hg, if_neg hg, parseAddAccesses]
    dsimp only
    by_cases hv : (resolveVersion rps.isaSpec t.name t.major t.minor).1 = riscvUnknownVersion ∨
        (resolveVersion rps.isaSpec t.name t.major t.minor).2 = riscvUnknownVersion
    · have hnone : zs ++ zNames ((none : Option Subset).toList.map (·.name)) = zs := List.append_nil zs
      rw [if_pos ⟨rfl, hv⟩, if_pos hv, hnone]
      exact ⟨fun _ => hzs, fun _ => .nil⟩
    · rw [if_neg fun hno => hv hno.2, if_neg hv]
      exact h.lookup_iff hzs ht.inTable

theorem ZRun.tokens (rps : Rps) (h : ZRun zs st.list) {ts : List Token} (hts : ∀ t ∈ ts, ParsedName t.name) :
    ZRun (zs ++ zNames ((tokenEntries rps ts).map (·.name))) (ts.foldl (addToken rps) st).list := by
  induction ts generalizing st zs with
  | nil =>
    have hnil : zs ++ zNames ((tokenEntries rps []).map (·.name)) = zs := List.append_nil zs
    rw [hnil]
    exact h
  | cons t ts ih =>
    rw [tokenNames_cons, zNames_append, ← List.append_assoc]
    exact ih (h.token (hts t List.mem_cons_self)) fun u hu => hts u (List.mem_cons_of_mem t hu)

/-- The extensions of a string stay inside the table exactly if the z extensions are few or good. -/
theorem ZRun.tokens_iff (h : ZRun zs st.list) (hzs : FewOrGood zs) {ts : List Token}
    (hts : ∀ t ∈ ts, ParsedName t.name) :
    AllInTable (tokensAccesses rps ts st) ↔ FewOrGood (zs ++ zNames ((tokenEntries rps ts).map (·.name))) := by
  induction ts generalizing st zs with
  | nil =>
    have hnil : zs ++ zNames ((tokenEntries rps []).map (·.name)) = zs := List.append_nil zs
    rw [hnil]
    exact ⟨fun _ => hzs, fun _ => .nil⟩
  | cons t ts ih =>
    have ht := hts t List.mem_cons_self
    have hrest (hfew : FewOrGood (zs ++ zNames (tokenNames rps t))) :=
      ih (h.token ht) hfew fun u hu => hts u (List.mem_cons_of_mem t hu)
    rw [h.token_iff hzs ht, tokenNames_cons, zNames_append, ← List.append_assoc]
    constructor
    · rintro ⟨hfew, htokens⟩
      exact (hrest hfew).mp htokens
    · intro hfew
      exact ⟨hfew.of_append, (hrest hfew.of_append).mpr hfew⟩

/-! ## What is added behind the extensions -/

theorem implied_inTable {r : ImplicitSubset} (hr : r ∈ riscvImplicitSubsets) :
    InTable (charAt r.subsetName) ∧ InTable (charAt r.implicitName) :=
  ⟨(riscvImplicitSubsets_good r hr).1.parsed.inTable, (riscvImplicitSubsets_good r hr).2.parsed.inTable⟩

/-- Where the loop over the implied extensions stays inside the table, there are few z extensions behind it. -/
theorem ZRun.implicit (h : ZRun zs st.list) (hzs : FewOrGood zs) {fuel : Nat}
    (haccess : AllInTable (implicitLoopAccesses rps riscvImplicitSubsets fuel st)) {st' : ParseState}
    (hloop : implicitLoop rps riscvImplicitSubsets fuel st = some st') :
    ∃ ms, ZRun (zs ++ ms) st'.list ∧ FewOrGood (zs ++ ms) := by
  induction fuel generalizing st zs with
  | zero => cases hloop
  | succ fuel ih =>
    rw [implicitLoop] at hloop
    rw [implicitLoopAccesses, AllInTable.append_iff] at haccess
    split at hloop
    · cases hloop
      exact ⟨[], by rwa [List.append_nil], by rwa [List.append_nil]⟩
    · rename_i r hfind
      have hr := implied_inTable (List.mem_of_find?_eq_some hfind)
      rw [hfind] at haccess
      dsimp only at haccess
      rw [AllInTable.append_iff, AllInTable.append_iff] at haccess
      obtain ⟨-, ⟨-, hadd⟩, hrest⟩ := haccess
      obtain ⟨ms, hrun, hfew⟩ := ih (h.parseAdd rps hr.2 _ _) ((h.parseAdd_iff rps hzs hr.2 _ _).mp hadd) hrest hloop
      rw [List.append_assoc] at hrun hfew
      exact ⟨_, hrun, hfew⟩

theorem zcf_mem_conflictAccesses {l : SubsetList} (h : AllInTable (conflictAccesses l)) :
    AllInTable (lookupAccesses l "zcf".toList) := by
  simp only [conflictAccesses, AllInTable.append_iff] at h
  exact h.1.1.1.1.2

/-- The check behind an addition looks for zcf, so a z extension without a letter behind the z shows. -/
theorem ZRun.good_of_close (h : ZRun zs st.list) (hzs : FewOrGood zs) (haccess : AllInTable (closeAccesses rps st)) :
    ∀ n ∈ zs, SecondInTable n := by
  rw [closeAccesses, AllInTable.append_iff] at haccess
  obtain ⟨hloop, hconflict⟩ := haccess
  have hzcf := zcf_mem_conflictAccesses hconflict
  obtain ⟨ms, hrun, hfew⟩ : ∃ ms, ZRun (zs ++ ms) (riscvParseAddImplicitSubsets rps st).list ∧
      FewOrGood (zs ++ ms) := by
    rw [riscvParseAddImplicitSubsets, addImplicitSubsets]
    cases hend : implicitLoop rps riscvImplicitSubsets (riscvImplicitSubsets.length + 1) st with
    | none => exact ⟨[], by rwa [List.append_nil], by rwa [List.append_nil]⟩
    | some st' => exact h.implicit hzs hloop hend
  rw [hrun.lookup_iff hfew (by decide), zNames_z (by decide)] at hzcf
  intro n hn
  rcases hzcf with hgood | hone
  · exact hgood n (by simp [hn])
  · have hpos := List.length_pos_of_mem hn
    simp only [List.length_append, List.length_singleton] at hone
    omega

end ZRun

/-! ## Safe lists -/

section Safe

variable {l : SubsetList} {n : Name} {rps : Rps} {st : ParseState}

/-- A name whose characters are looked up are lower-case letters. -/
structure SafeName (n : Name) : Prop where
  first : InTable (charAt n)
  second : SecondInTable n

theorem GoodName.safe (h : GoodName n) : SafeName n := ⟨h.parsed.inTable, h.secondInTable⟩

/-- All z extensions of a list have a lower-case letter behind the z. -/
structure Safe (l : SubsetList) : Prop extends l.Wf where
  names : ∀ s ∈ l.nodes, SafeName s.name

theorem Safe.toFirsts (h : Safe l) : Firsts l := ⟨h.toWf, fun s hs => (h.names s hs).first⟩

theorem Safe.nil : Safe {} := ⟨.nil, fun _ hs => absurd hs List.not_mem_nil⟩

theorem Safe.add (h : Safe l) (hn : SafeName n) (major minor : Int) : Safe (riscvAddSubset l n major minor) := by
  refine ⟨riscvAddSubset_wf h.toWf n major minor, fun s hs => ?_⟩
  rcases mem_of_mem_add h.toWf hs with rfl | hs
  · exact hn
  · exact h.names s hs

theorem Safe.remove (h : Safe l) (n : Name) : Safe (riscvRemoveSubset l n) :=
  ⟨riscvRemoveSubset_wf h.toWf n, fun s hs => h.names s ((mem_remove h.toWf n).mp hs).1⟩

theorem Safe.lookup (h : Safe l) (hn : SafeName n) : AllInTable (lookupAccesses l n) :=
  lookupAccesses_inTable h.toFirsts hn.first fun s hs hsz hnz => ⟨(h.names s hs).second hsz, hn.second hnz⟩

theorem Safe.parseAdd (h : Safe st.list) (hn : SafeName n) (major minor : Int) (implicit : Bool) :
    AllInTable (parseAddAccesses rps st n major minor implicit) := by
  rw [parseAddAccesses]
  split
  · exact .nil
  · exact h.lookup hn

theorem Safe.parseAddSubset (h : Safe st.list) (hn : SafeName n) (major minor : Int) (implicit : Bool) :
    Safe (riscvParseAddSubset rps st n major minor implicit).list := by
  rw [riscvParseAddSubset]
  split
  · split
    · exact h
    · split <;> exact h
  · exact h.add hn _ _

theorem Safe.row (h : Safe l) {r : ImplicitSubset} (hr : r ∈ riscvImplicitSubsets) : AllInTable (rowAccesses l r) := by
  obtain ⟨hsubset, himplicit⟩ := riscvImplicitSubsets_good r hr
  rw [rowAccesses, AllInTable.append_iff]
  refine ⟨h.lookup hsubset.safe, ?_⟩
  split
  · exact h.lookup himplicit.safe
  · exact .nil

theorem Safe.implicit (h : Safe st.list) (fuel : Nat) :
    AllInTable (implicitLoopAccesses rps riscvImplicitSubsets fuel st) := by
  induction fuel generalizing st with
  | zero => exact .nil
  | succ fuel ih =>
    rw [implicitLoopAccesses, AllInTable.append_iff]
    constructor
    · intro c hc
      obtain ⟨r, hr, hc⟩ := List.mem_flatMap.mp hc
      exact h.row ((List.takeWhile_sublist _).subset hr) c hc
    · split
      · exact .nil
      · rename_i r hfind
        have hr := List.mem_of_find?_eq_some hfind
        have himplicit := (riscvImplicitSubsets_good r hr).2.safe
        rw [AllInTable.append_iff, AllInTable.append_iff]
        exact ⟨⟨h.row hr, h.parseAdd himplicit _ _ _⟩, ih (h.parseAddSubset himplicit _ _ _)⟩

theorem Safe.conflicts (h : Safe l) : AllInTable (conflictAccesses l) := by
  have hlookup (n : Name) (hn : GoodName n) : AllInTable (lookupAccesses l n) := h.lookup hn.safe
  have hif (b : Bool) (n : Name) (hn : GoodName n) : AllInTable (if b then lookupAccesses l n else []) := by
    split
    · exact hlookup n hn
    · exact .nil
  simp only [conflictAccesses, AllInTable.append_iff]
  exact ⟨⟨⟨⟨⟨⟨⟨hlookup _ (by decide), hif _ _ (by decide)⟩, hlookup _ (by decide)⟩, hlookup _ (by decide)⟩,
    hlookup _ (by decide)⟩, hif _ _ (by decide)⟩, hlookup _ (by decide)⟩, hif _ _ (by decide)⟩

theorem Safe.implied (h : Safe st.list) : Safe (riscvParseAddImplicitSubsets rps st).list :=
  riscvParseAddImplicitSubsets_keeps
    (fun _ r hr major minor _ hl => hl.add (riscvImplicitSubsets_good r hr).2.safe major minor) h

theorem Safe.close (h : Safe st.list) : AllInTable (closeAccesses rps st) := by
  rw [closeAccesses, AllInTable.append_iff]
  exact ⟨h.implicit _, h.implied.conflicts⟩

theorem Safe.closed (rps : Rps) (h : Safe st.list) :
    Safe (riscvParseCheckConflicts (riscvParseAddImplicitSubsets rps st)).2.list := by
  rw [(riscvParseCheckConflicts_list _).1]
  exact h.implied

end Safe

end RiscvBinutils.Isa
