/-
The extensions that an ISA string names, as they are written: a name, and the version behind it, whose numbers have
no bound and which has one p at most.  What `riscv_parse_extensions` (bfd/elfxx-riscv.c) reads is compared with this.
-/
import RiscvBinutils.Isa.Parsed
import RiscvBinutils.Isa.Version

namespace RiscvBinutils.Isa

open Std RiscvBinutils.Base

/-! ## What the string says -/

/-- The version at the start of a text, `<major>` or `<major>p<minor>`, and what stands behind it. -/
def writtenVersion (p : List Char) : Option (Nat × Nat) × List Char :=
  let major := p.takeWhile isDigit
  let rest := p.dropWhile isDigit
  if major = [] then (none, p)
  else if rest.head? = some 'p' ∧ (rest.drop 1).head?.any isDigit = true then
    (some (numberFrom 0 major, numberFrom 0 ((rest.drop 1).takeWhile isDigit)), (rest.drop 1).dropWhile isDigit)
  else (some (numberFrom 0 major, 0), rest)

/-- The name of the extension at the start of a text. -/
def extensionName (p : List Char) : Name :=
  match riscvGetPrefixClass p with
  | .single => p.take 1
  | _ => strippedName p

/-- An extension as it is written, and what stands behind it. -/
structure WrittenExtension where
  name : Name
  version : Option (Nat × Nat)
  rest : List Char
  deriving DecidableEq, Repr

/-- The extensions of a text; every round reads a character. -/
def writtenExtensions : (fuel : Nat) → List Char → List WrittenExtension
  | 0, _ => []
  | _ + 1, [] => []
  | fuel + 1, c :: p =>
    if c = '_' then writtenExtensions fuel p
    else
      let v := writtenVersion (versionStart (c :: p))
      ⟨extensionName (c :: p), v.1, v.2⟩ :: writtenExtensions fuel v.2

/-- The extensions that an ISA string names, in its order. -/
def archExtensions (arch : List Char) : List WrittenExtension :=
  match archXlen arch with
  | some (_, p) => writtenExtensions p.length p
  | none => []

/-- The version that is written; 0p0 stands for none. -/
def WrittenExtension.stated (x : WrittenExtension) : Option (Nat × Nat) := x.version.filter (· ≠ (0, 0))

/-- The version is one that the parser can read: its numbers fit in an `int`, and no p with a digit follows. -/
structure WrittenExtension.Plain (x : WrittenExtension) : Prop where
  range : ∀ v ∈ x.version, (v.1 : Int) ≤ intMax ∧ (v.2 : Int) ≤ intMax
  separate : ¬BeginsNumberP x.rest

/-! ## Versions -/

section Versions

variable {p : List Char}

/-- What `riscv_parsing_subset_version` leaves of a text, whatever it has counted. -/
def skipVersion : List Char → List Char
  | [] => []
  | c :: p =>
    if c = 'p' then if p.head?.any isDigit then skipVersion p else c :: p
    else if isDigit c then skipVersion p
    else c :: p

theorem versionLoop_skip (majorP : Bool) (version major : Int) (p : List Char) :
    (versionLoop majorP version major p).2.2.2 = skipVersion p := by
  induction p generalizing majorP version major with
  | nil => rfl
  | cons c p ih =>
    rw [versionLoop, skipVersion]
    split
    · split
      · exact ih false 0 version
      · rfl
    · split
      · exact ih majorP _ major
      · rfl

theorem skipVersion_digits {ds : List Char} (hds : ∀ c ∈ ds, isDigit c = true) (rest : List Char) :
    skipVersion (ds ++ rest) = skipVersion rest := by
  induction ds with
  | nil => rfl
  | cons c ds ih =>
    have hc := hds c List.mem_cons_self
    rw [List.cons_append, skipVersion, if_neg (ne_p_of_isDigit hc), if_pos hc]
    exact ih fun d hd => hds d (List.mem_cons_of_mem c hd)

theorem takeWhile_isDigit (p : List Char) : ∀ c ∈ p.takeWhile isDigit, isDigit c = true :=
  fun _ hc => List.mem_takeWhile_imp hc

theorem dropWhile_isDigit (p : List Char) : ∀ c ∈ (p.dropWhile isDigit).head?, isDigit c = false := by
  intro c hc
  have hstop := List.head?_dropWhile_not isDigit p
  rw [Option.mem_def.mp hc] at hstop
  exact hstop

theorem skipVersion_dropWhile (p : List Char) : skipVersion (p.dropWhile isDigit) = skipVersion p := by
  have h := skipVersion_digits (takeWhile_isDigit p) (p.dropWhile isDigit)
  rw [List.takeWhile_append_dropWhile] at h
  exact h.symm

/-- A p with a digit behind it is skipped. -/
theorem skipVersion_numberP {r : List Char} (hp : BeginsNumberP r) : skipVersion r = skipVersion (r.drop 1) := by
  obtain ⟨hhead, hnext⟩ := hp
  obtain ⟨q, rfl⟩ := List.head?_eq_some_iff.mp hhead
  have hnext : q.head?.any isDigit = true := hnext
  rw [skipVersion, if_pos rfl, if_pos hnext, List.drop_one, List.tail_cons]

/-- The version that is written is skipped. -/
theorem skipVersion_writtenVersion (p : List Char) : skipVersion (writtenVersion p).2 = skipVersion p := by
  rw [writtenVersion]
  split
  · rfl
  · split
    · rename_i hp
      rw [skipVersion_dropWhile, ← skipVersion_numberP hp, skipVersion_dropWhile]
    · exact skipVersion_dropWhile p

/-- No digit stands behind the version. -/
theorem writtenVersion_stops (p : List Char) : ∀ c ∈ (writtenVersion p).2.head?, isDigit c = false := by
  rw [writtenVersion]
  split
  · rename_i hnone
    have hdrop := dropWhile_isDigit p
    have hall := List.takeWhile_append_dropWhile (p := isDigit) (l := p)
    rw [hnone, List.nil_append] at hall
    rwa [hall] at hdrop
  · split
    · exact dropWhile_isDigit _
    · exact dropWhile_isDigit p

theorem writtenVersion_suffix (p : List Char) : (writtenVersion p).2 <:+ p := by
  rw [writtenVersion]
  split
  · exact List.suffix_refl p
  · split
    · exact (List.dropWhile_suffix _).trans ((List.drop_suffix _ _).trans (List.dropWhile_suffix _))
    · exact List.dropWhile_suffix _

/-- Without another p with a digit, nothing but the version is skipped. -/
theorem skipVersion_stops {r : List Char} (hr : ∀ c ∈ r.head?, isDigit c = false) (hp : ¬BeginsNumberP r) :
    skipVersion r = r := by
  have hskip := versionLoop_skip true 0 0 r
  rw [(versionLoop_end hr hp true 0 0).1] at hskip
  exact hskip.symm

/-- A version that stands in the text is taken off it. -/
theorem writtenVersion_text (p : List Char) : writtenVersion p = (none, p) ∨
    ∃ (v : WrittenVersion) (rest : List Char),
      writtenVersion p = (some (v.major.value, v.minorValue), rest) ∧ p = v.text ++ rest := by
  have hall := List.takeWhile_append_dropWhile (p := isDigit) (l := p)
  rw [writtenVersion]
  split
  · exact .inl rfl
  · rename_i hmajor
    refine .inr ?_
    split
    · rename_i hp
      obtain ⟨q, hq⟩ := List.head?_eq_some_iff.mp hp.1
      rw [hq, List.drop_one, List.tail_cons] at hp ⊢
      have hminor : q.takeWhile isDigit ≠ [] := by
        obtain ⟨c, hc, hdigit⟩ := (Option.any_eq_true _ _).mp hp.2
        obtain ⟨r, rfl⟩ := List.head?_eq_some_iff.mp hc
        rw [List.takeWhile_cons_of_pos hdigit]
        exact List.cons_ne_nil _ _
      refine ⟨⟨⟨_, hmajor, takeWhile_isDigit p⟩, some ⟨_, hminor, takeWhile_isDigit q⟩⟩, _, rfl, ?_⟩
      rw [WrittenVersion.text, Option.elim_some, List.append_assoc, List.cons_append,
        List.takeWhile_append_dropWhile, ← hq, hall]
    · refine ⟨⟨⟨_, hmajor, takeWhile_isDigit p⟩, none⟩, _, rfl, ?_⟩
      rw [WrittenVersion.text, Option.elim_none, List.append_nil, hall]

/-- A version that is plain is read as it is written. -/
theorem riscvParsingSubsetVersion_plain {p : List Char} {n : Name}
    (h : (WrittenExtension.mk n (writtenVersion p).1 (writtenVersion p).2).Plain) :
    riscvParsingSubsetVersion p =
      ((writtenVersion p).1.filter (· ≠ (0, 0))).elim (riscvUnknownVersion, riscvUnknownVersion, (writtenVersion p).2)
        fun v => ((v.1 : Int), (v.2 : Int), (writtenVersion p).2) := by
  have hstops := writtenVersion_stops p
  rcases writtenVersion_text p with hnone | ⟨v, rest, hsome, htext⟩
  · rw [hnone] at h hstops ⊢
    rw [riscvParsingSubsetVersion, (versionLoop_end hstops h.separate true 0 0).1]
    rfl
  · rw [hsome] at h hstops ⊢
    obtain ⟨hmajor, hminor⟩ := h.range _ rfl
    have hread := riscvParsingSubsetVersion_text hmajor hminor hstops h.separate
    rw [← htext] at hread
    rw [hread]
    by_cases hzero : v.major.value = 0 ∧ v.minorValue = 0
    · rw [if_pos hzero, hzero.1, hzero.2]
      rfl
    · have hne : (v.major.value, v.minorValue) ≠ (0, 0) := fun heq => hzero (Prod.mk.inj heq)
      rw [if_neg hzero, Option.filter_some, if_pos (decide_eq_true hne)]
      rfl

end Versions

/-! ## Extensions -/

section Extensions

theorem versionStart_length {c : Char} (p : List Char) : (versionStart (c :: p)).length ≤ p.length := by
  rw [versionStart]
  split
  · exact Nat.le_refl _
  · rename_i hclass
    have hne : strippedName (c :: p) ≠ [] := by
      intro hnil
      have hsame := class_strippedName hclass
      rw [hnil] at hsame
      exact hclass hsame.symm
    have hpos := List.length_pos_of_ne_nil hne
    rw [List.length_drop, List.length_cons]
    omega

theorem writtenVersion_length {c : Char} (p : List Char) :
    (writtenVersion (versionStart (c :: p))).2.length ≤ p.length :=
  (writtenVersion_suffix _).length_le.trans (versionStart_length p)

/-- The fuel does not matter where it is enough. -/
theorem writtenExtensions_fuel {fuel fuel' : Nat} {p : List Char} (h : p.length ≤ fuel) (h' : p.length ≤ fuel') :
    writtenExtensions fuel p = writtenExtensions fuel' p := by
  induction fuel generalizing fuel' p with
  | zero =>
    rw [List.length_eq_zero_iff.mp (Nat.le_zero.mp h)]
    cases fuel' <;> rfl
  | succ fuel ih =>
    cases p with
    | nil => cases fuel' <;> rfl
    | cons c p =>
      obtain ⟨fuel', rfl⟩ : ∃ k, fuel' = k + 1 := ⟨fuel' - 1, by rw [List.length_cons] at h'; omega⟩
      rw [List.length_cons] at h h'
      rw [writtenExtensions, writtenExtensions]
      split
      · exact ih (by omega) (by omega)
      · have hlen := @writtenVersion_length c p
        have hrest := ih (hlen.trans (Nat.le_of_succ_le_succ h)) (hlen.trans (Nat.le_of_succ_le_succ h'))
        dsimp only
        rw [hrest]

/-- The extensions of a text, with fuel that is enough. -/
def extensionsOf (p : List Char) : List WrittenExtension := writtenExtensions p.length p

theorem extensionsOf_underscore (p : List Char) : extensionsOf ('_' :: p) = extensionsOf p := by
  rw [extensionsOf, List.length_cons, writtenExtensions, if_pos rfl]
  rfl

theorem extensionsOf_cons {c : Char} (hc : c ≠ '_') (p : List Char) :
    extensionsOf (c :: p) =
      ⟨extensionName (c :: p), (writtenVersion (versionStart (c :: p))).1,
        (writtenVersion (versionStart (c :: p))).2⟩ :: extensionsOf (writtenVersion (versionStart (c :: p))).2 := by
  rw [extensionsOf, List.length_cons, writtenExtensions, if_neg hc]
  dsimp only
  rw [extensionsOf, writtenExtensions_fuel (writtenVersion_length p) (Nat.le_refl _)]

/-- What the parser skips behind a version names p and nothing else. -/
theorem extensionsOf_skip {r : List Char} (hr : ∀ c ∈ r.head?, isDigit c = false) :
    ∃ pre, (∀ x ∈ pre, x.name = ['p']) ∧ extensionsOf r = pre ++ extensionsOf (skipVersion r) := by
  induction hlen : r.length using Nat.strongRecOn generalizing r with
  | _ n ih =>
    by_cases hp : BeginsNumberP r
    · obtain ⟨q, rfl⟩ := List.head?_eq_some_iff.mp hp.1
      have hstart : versionStart ('p' :: q) = q := rfl
      have hskip : skipVersion ('p' :: q) = skipVersion (writtenVersion q).2 := by
        rw [skipVersion_writtenVersion]
        exact skipVersion_numberP hp
      have hshorter := (writtenVersion_suffix q).length_le
      rw [List.length_cons] at hlen
      obtain ⟨pre, hpre, hrest⟩ := ih _ (by omega) (writtenVersion_stops q) rfl
      refine ⟨⟨['p'], (writtenVersion q).1, (writtenVersion q).2⟩ :: pre, ?_, ?_⟩
      · intro x hx
        rcases List.mem_cons.mp hx with rfl | hx
        · rfl
        · exact hpre x hx
      · rw [extensionsOf_cons (by decide), hstart, hskip, hrest]
        rfl
    · refine ⟨[], fun x hx => absurd hx List.not_mem_nil, ?_⟩
      rw [skipVersion_stops hr hp, List.nil_append]

end Extensions

/-! ## What is read -/

section Read

variable {check : Bool} {arch : List Char} {t : Token} {ts : List Token}

/-- A prefixed extension reaches to the next underscore. -/
theorem prefixed_start {p : List Char} (hclass : riscvGetPrefixClass p ≠ .single) :
    extensionName p = strippedName p ∧ versionStart p = p.drop (strippedName p).length := by
  unfold extensionName versionStart
  cases hc : riscvGetPrefixClass p with
  | single => exact absurd hc hclass
  | zxm => exact ⟨rfl, rfl⟩
  | z => exact ⟨rfl, rfl⟩
  | s => exact ⟨rfl, rfl⟩
  | x => exact ⟨rfl, rfl⟩

/-- What one round of the parser reads, in terms of the text. -/
theorem nextToken_read {p rest : List Char} (h : nextToken check arch p = .ok (t, rest)) :
    t.name = extensionName p ∧ (t.major, t.minor, rest) = riscvParsingSubsetVersion (versionStart p) := by
  unfold nextToken at h
  split at h
  · rename_i hclass
    split at h
    · cases h
    · split at h
      · cases h
      · cases h
        rw [extensionName, versionStart, hclass]
        exact ⟨rfl, rfl⟩
  · rename_i hclass
    obtain ⟨hname, hstart⟩ := prefixed_start hclass
    dsimp only at h
    split at h
    · cases h
    · split at h
      · cases h
      · cases h
        rw [hname, hstart]
        exact ⟨rfl, rfl⟩

theorem nextToken_rest {p rest : List Char} (h : nextToken check arch p = .ok (t, rest)) :
    rest = skipVersion (writtenVersion (versionStart p)).2 := by
  have hread := (nextToken_read h).2
  have hrest : rest = (riscvParsingSubsetVersion (versionStart p)).2.2 := by rw [← hread]
  rw [hrest, riscvParsingSubsetVersion_rest, versionLoop_skip, skipVersion_writtenVersion]

/-- One extension is read, and some p behind its version are not. -/
theorem nextToken_extensions {c : Char} {p rest : List Char} (hc : c ≠ '_')
    (h : nextToken check arch (c :: p) = .ok (t, rest)) :
    ∃ x pre, x.name = t.name ∧ (∀ y ∈ pre, y.name = ['p']) ∧
      extensionsOf (c :: p) = x :: (pre ++ extensionsOf rest) := by
  obtain ⟨pre, hpre, hrest⟩ := extensionsOf_skip (writtenVersion_stops (versionStart (c :: p)))
  have hcons := extensionsOf_cons hc p
  rw [hrest, ← nextToken_rest h] at hcons
  exact ⟨_, pre, (nextToken_read h).1.symm, hpre, hcons⟩

/-- The names that are read are written, and the other way round but for p. -/
structure NamesAgree (ts : List Token) (ws : List WrittenExtension) : Prop where
  written : ∀ t ∈ ts, ∃ x ∈ ws, x.name = t.name
  read : ∀ x ∈ ws, x.name = ['p'] ∨ ∃ t ∈ ts, t.name = x.name

theorem NamesAgree.cons {ws pre : List WrittenExtension} {x : WrittenExtension} (h : NamesAgree ts ws)
    (hname : x.name = t.name) (hpre : ∀ y ∈ pre, y.name = ['p']) : NamesAgree (t :: ts) (x :: (pre ++ ws)) where
  written := by
    intro u hu
    rcases List.mem_cons.mp hu with rfl | hu
    · exact ⟨x, List.mem_cons_self, hname⟩
    · obtain ⟨y, hy, hyname⟩ := h.written u hu
      exact ⟨y, List.mem_cons_of_mem x (List.mem_append_right pre hy), hyname⟩
  read := by
    intro y hy
    rcases List.mem_cons.mp hy with rfl | hy
    · exact .inr ⟨t, List.mem_cons_self, hname.symm⟩
    · rcases List.mem_append.mp hy with hy | hy
      · exact .inl (hpre y hy)
      · refine (h.read y hy).imp_right ?_
        rintro ⟨u, hu, huname⟩
        exact ⟨u, List.mem_cons_of_mem t hu, huname⟩

theorem scanExtensions_names {fuel : Nat} {p : List Char} (hp : ∀ c ∈ p, isUpper c = false) (hfuel : p.length ≤ fuel)
    (h : scanExtensions check arch fuel p = (ts, none)) : NamesAgree ts (extensionsOf p) := by
  have hempty : NamesAgree [] (extensionsOf []) :=
    ⟨fun t ht => absurd ht List.not_mem_nil, fun x hx => absurd hx List.not_mem_nil⟩
  induction fuel generalizing p ts with
  | zero =>
    rw [scanExtensions] at h
    cases h
    rwa [List.length_eq_zero_iff.mp (Nat.le_zero.mp hfuel)]
  | succ fuel ih =>
    cases p with
    | nil =>
      rw [scanExtensions] at h
      cases h
      exact hempty
    | cons c p =>
      rw [scanExtensions] at h
      split at h
      · rename_i hc
        rw [hc, extensionsOf_underscore]
        exact ih (fun d hd => hp d (List.mem_cons_of_mem c hd)) (Nat.le_of_succ_le_succ hfuel) h
      · rename_i hc
        split at h
        · cases h
        · rename_i t rest htoken
          have hok := nextToken_ok hp htoken
          obtain ⟨x, pre, hname, hpre, hws⟩ := nextToken_extensions hc htoken
          split at h
          · cases h
          · obtain ⟨hts, hnone⟩ := Prod.mk.inj h
            have hagree : NamesAgree (scanExtensions check arch fuel rest).1 (extensionsOf rest) :=
              ih (fun d hd => hp d (hok.suffix.subset hd)) (Nat.le_of_lt_succ (hok.shorter.trans_le hfuel))
                (Prod.ext rfl hnone)
            rw [hws, ← hts]
            exact hagree.cons hname hpre

/-- The extension as the parser reads it where its version is plain. -/
def WrittenExtension.token (x : WrittenExtension) : Token :=
  let v := x.stated.elim (riscvUnknownVersion, riscvUnknownVersion) fun v => ((v.1 : Int), (v.2 : Int))
  ⟨x.name, v.1, v.2⟩

/-- An extension with a plain version is read as it is written. -/
theorem nextToken_plain {c : Char} {p rest : List Char} (h : nextToken check arch (c :: p) = .ok (t, rest))
    {x : WrittenExtension} (hx : x = ⟨extensionName (c :: p), (writtenVersion (versionStart (c :: p))).1,
      (writtenVersion (versionStart (c :: p))).2⟩) (hplain : x.Plain) : t = x.token ∧ rest = x.rest := by
  obtain ⟨hname, hread⟩ := nextToken_read h
  rw [hx] at hplain
  rw [riscvParsingSubsetVersion_plain hplain] at hread
  have hstated : x.stated = (writtenVersion (versionStart (c :: p))).1.filter (· ≠ (0, 0)) := by rw [hx]; rfl
  rw [← hstated] at hread
  obtain ⟨n, major, minor⟩ := t
  rw [WrittenExtension.token, hx]
  rw [hx] at hstated hread
  rw [hstated] at hread ⊢
  cases hv : (writtenVersion (versionStart (c :: p))).1.filter (· ≠ (0, 0)) with
  | none =>
    rw [hv] at hread
    cases hread
    cases hname
    exact ⟨rfl, rfl⟩
  | some v =>
    rw [hv] at hread
    cases hread
    cases hname
    exact ⟨rfl, rfl⟩

theorem scanExtensions_plain {fuel : Nat} {p : List Char} (hp : ∀ c ∈ p, isUpper c = false) (hfuel : p.length ≤ fuel)
    (hplain : ∀ x ∈ extensionsOf p, x.Plain) (h : scanExtensions check arch fuel p = (ts, none)) :
    ts = (extensionsOf p).map WrittenExtension.token := by
  induction fuel generalizing p ts with
  | zero =>
    rw [scanExtensions] at h
    cases h
    rw [List.length_eq_zero_iff.mp (Nat.le_zero.mp hfuel)]
    rfl
  | succ fuel ih =>
    cases p with
    | nil =>
      rw [scanExtensions] at h
      cases h
      rfl
    | cons c p =>
      rw [scanExtensions] at h
      split at h
      · rename_i hc
        rw [hc, extensionsOf_underscore] at hplain ⊢
        exact ih (fun d hd => hp d (List.mem_cons_of_mem c hd)) (Nat.le_of_succ_le_succ hfuel) hplain h
      · rename_i hc
        rw [extensionsOf_cons hc] at hplain ⊢
        split at h
        · cases h
        · rename_i t rest htoken
          have hok := nextToken_ok hp htoken
          obtain ⟨ht, hrest⟩ := nextToken_plain htoken rfl (hplain _ List.mem_cons_self)
          split at h
          · cases h
          · obtain ⟨hts, hnone⟩ := Prod.mk.inj h
            have hmap := ih (fun d hd => hp d (hok.suffix.subset hd))
              (Nat.le_of_lt_succ (hok.shorter.trans_le hfuel))
              (fun x hx => hplain x (List.mem_cons_of_mem _ (by rwa [hrest] at hx))) (Prod.ext rfl hnone)
            rw [hrest] at hmap
            rw [List.map_cons, ← hmap, ← ht]
            exact hts.symm.trans (by rw [hrest])

end Read

end RiscvBinutils.Isa
