/-
What the parser reads from a string (bfd/elfxx-riscv.c, `riscv_parse_extensions`): the names it can find there,
and that it reads back an extension written with its version.
-/
import RiscvBinutils.Isa.Implied

namespace RiscvBinutils.Isa

open RiscvBinutils.Base

/-! ## Numbers -/

section Numbers

theorem toNat_digitChar {n : Nat} (h : n < 10) : (Nat.digitChar n).toNat = 48 + n := by
  rw [Nat.toNat_digitChar_of_lt_ten h]

theorem isDigit_digitChar {n : Nat} (h : n < 10) : isDigit (Nat.digitChar n) = true := by
  have := toNat_digitChar h
  unfold isDigit
  rw [decide_eq_true_iff, this]
  exact ⟨Nat.le_add_right 48 n, Nat.add_le_add_left (Nat.le_of_lt_succ h) 48⟩

theorem ne_p_of_isDigit {c : Char} (h : isDigit c = true) : c ≠ 'p' := by
  rintro rfl
  exact absurd h (by decide)

theorem isDigit_of_mem_toDigits {n : Nat} {c : Char} (h : c ∈ Nat.toDigits 10 n) : isDigit c = true := by
  induction n using Nat.strongRecOn with
  | _ n ih =>
    rw [Nat.toDigits_eq_if (by decide)] at h
    split at h
    · rename_i hn
      rw [List.mem_singleton.mp h]
      exact isDigit_digitChar hn
    · rcases List.mem_append.mp h with h | h
      · exact ih (n / 10) (Nat.div_lt_self (by omega) (by decide)) h
      · rw [List.mem_singleton.mp h]
        exact isDigit_digitChar (Nat.mod_lt n (by decide))

/-- `INT_MAX`. -/
def intMax : Int := 2147483647

/-- What an `int` can hold. -/
def IsInt (v : Int) : Prop := -2147483648 ≤ v ∧ v ≤ intMax

instance (v : Int) : Decidable (IsInt v) := inferInstanceAs (Decidable (_ ∧ _))

theorem isInt_toInt (v : Int) : IsInt (toInt v) := by
  rw [IsInt, intMax, toInt, Int.bmod_def]
  omega

theorem toInt_of_range {v : Int} (hneg : 0 ≤ v) (hmax : v ≤ intMax) : toInt v = v := by
  rw [intMax] at hmax
  rw [toInt, Int.bmod_def]
  omega

theorem nextSum_natCast (v : Nat) (c : Char) : nextSum v c = ((v * 10 + (c.toNat - '0'.toNat) : Nat) : Int) := by
  rw [nextSum]
  push_cast
  rfl

/-- The number that digits continue. -/
def numberFrom (v : Nat) (ds : List Char) : Nat := ds.foldl (fun v c => v * 10 + (c.toNat - '0'.toNat)) v

theorem le_numberFrom (v : Nat) (ds : List Char) : v ≤ numberFrom v ds := by
  induction ds generalizing v with
  | nil => exact Nat.le_refl v
  | cons c ds ih =>
    have h := ih (v * 10 + (c.toNat - '0'.toNat))
    rw [numberFrom, List.foldl_cons]
    rw [numberFrom] at h
    omega

theorem numberFrom_toDigits (n : Nat) : numberFrom 0 (Nat.toDigits 10 n) = n := by
  induction n using Nat.strongRecOn with
  | _ n ih =>
    rw [Nat.toDigits_eq_if (by decide)]
    split
    · rename_i hn
      rw [numberFrom, List.foldl_cons, List.foldl_nil, toNat_digitChar hn, Nat.zero_mul, Nat.zero_add]
      exact Nat.add_sub_cancel_left 48 n
    · have hlast := toNat_digitChar (Nat.mod_lt n (by decide : 0 < 10))
      have hinit := ih (n / 10) (Nat.div_lt_self (by omega) (by decide))
      rw [numberFrom] at hinit ⊢
      rw [List.foldl_append, hinit, List.foldl_cons, List.foldl_nil, hlast, show '0'.toNat = 48 from rfl]
      omega

/-- Digits are read exactly as long as an `int` can hold the number. -/
theorem versionLoop_digits {ds rest : List Char} {v : Nat} (hds : ∀ c ∈ ds, isDigit c = true)
    (hmax : (numberFrom v ds : Int) ≤ intMax) (majorP : Bool) (major : Int) :
    versionLoop majorP v major (ds ++ rest) = versionLoop majorP (numberFrom v ds) major rest := by
  induction ds generalizing v with
  | nil => rfl
  | cons c ds ih =>
    have hc := hds c List.mem_cons_self
    have hle : ((v * 10 + (c.toNat - '0'.toNat) : Nat) : Int) ≤ intMax :=
      Int.le_trans (Int.ofNat_le.mpr (le_numberFrom (v * 10 + (c.toNat - '0'.toNat)) ds)) hmax
    rw [List.cons_append, versionLoop, if_neg (ne_p_of_isDigit hc), if_pos hc, nextSum_natCast,
      toInt_of_range (Int.natCast_nonneg _) hle]
    exact ih (fun d hd => hds d (List.mem_cons_of_mem c hd)) hmax

/-- Reading a number that was written. -/
theorem versionLoop_toDigits {n : Nat} (hn : (n : Int) ≤ intMax) (majorP : Bool) (major : Int) (rest : List Char) :
    versionLoop majorP 0 major (Nat.toDigits 10 n ++ rest) = versionLoop majorP n major rest := by
  have h := @versionLoop_digits (Nat.toDigits 10 n) rest 0 (fun _ => isDigit_of_mem_toDigits)
    (by rwa [numberFrom_toDigits]) majorP major
  rw [numberFrom_toDigits] at h
  exact h

/-- A version as it is written: `<major>p<minor>`. -/
def versionText (major minor : Nat) : List Char := Nat.toDigits 10 major ++ 'p' :: Nat.toDigits 10 minor

/-- The string ends, or goes on with an underscore. -/
def AtBreak (rest : List Char) : Prop := ∀ c ∈ rest.head?, c = '_'

theorem toDigits_append_head? (n : Nat) (rest : List Char) :
    (Nat.toDigits 10 n ++ rest).head?.any isDigit = true := by
  obtain ⟨c, cs, hcs⟩ := List.exists_cons_of_ne_nil (Nat.toDigits_ne_nil (n := n) (b := 10))
  rw [hcs]
  exact isDigit_of_mem_toDigits (n := n) (by rw [hcs]; exact List.mem_cons_self)

theorem versionLoop_atBreak {rest : List Char} (h : AtBreak rest) (majorP : Bool) (version major : Int) :
    versionLoop majorP version major rest = (majorP, version, major, rest) := by
  cases rest with
  | nil => rfl
  | cons c rest =>
    cases h c rfl
    rfl

/-- Reading a version that was written. -/
theorem riscvParsingSubsetVersion_versionText {major minor : Nat} (hmajor : (major : Int) ≤ intMax)
    (hminor : (minor : Int) ≤ intMax) (hknown : ¬(major = 0 ∧ minor = 0)) {rest : List Char} (hrest : AtBreak rest) :
    riscvParsingSubsetVersion (versionText major minor ++ rest) = ((major : Int), (minor : Int), rest) := by
  have hloop : versionLoop true 0 0 (versionText major minor ++ rest) = (false, (minor : Int), (major : Int), rest) := by
    rw [versionText, List.append_assoc, List.cons_append, versionLoop_toDigits hmajor, versionLoop, if_pos rfl,
      if_pos (toDigits_append_head? minor rest), versionLoop_toDigits hminor, versionLoop_atBreak hrest]
  rw [riscvParsingSubsetVersion, hloop]
  refine if_neg fun hzero => hknown ?_
  exact ⟨Int.ofNat_eq_zero.mp hzero.1, Int.ofNat_eq_zero.mp hzero.2⟩

theorem versionLoop_suffix (majorP : Bool) (version major : Int) (p : List Char) :
    (versionLoop majorP version major p).2.2.2 <:+ p := by
  induction p generalizing majorP version major with
  | nil => exact List.suffix_refl _
  | cons c p ih =>
    rw [versionLoop]
    split
    · split
      · exact (ih _ _ _).trans (List.suffix_cons c p)
      · exact List.suffix_refl _
    · split
      · exact (ih _ _ _).trans (List.suffix_cons c p)
      · exact List.suffix_refl _

theorem riscvParsingSubsetVersion_rest (p : List Char) :
    (riscvParsingSubsetVersion p).2.2 = (versionLoop true 0 0 p).2.2.2 := by
  rw [riscvParsingSubsetVersion]
  split <;> split <;> rfl

theorem riscvParsingSubsetVersion_suffix (p : List Char) : (riscvParsingSubsetVersion p).2.2 <:+ p := by
  rw [riscvParsingSubsetVersion_rest]
  exact versionLoop_suffix true 0 0 p

/-- The versions that can be read: an `int` each, and not both zero. -/
structure TokenVersion (major minor : Int) : Prop where
  majorInt : IsInt major
  minorInt : IsInt minor
  nonzero : ¬(major = 0 ∧ minor = 0)

theorem isInt_unknown : IsInt riscvUnknownVersion := by decide

theorem versionLoop_isInt (majorP : Bool) (version major : Int) (hversion : IsInt version) (hmajor : IsInt major)
    (p : List Char) : IsInt (versionLoop majorP version major p).2.1 ∧
      IsInt (versionLoop majorP version major p).2.2.1 := by
  induction p generalizing majorP version major with
  | nil => exact ⟨hversion, hmajor⟩
  | cons c p ih =>
    rw [versionLoop]
    split
    · split
      · exact ih false 0 version (by decide) hversion
      · exact ⟨hversion, hmajor⟩
    · split
      · exact ih majorP _ major (isInt_toInt _) hmajor
      · exact ⟨hversion, hmajor⟩

/-- The last test of `riscv_parsing_subset_version`. -/
theorem tokenVersion_of_isInt {major minor : Int} (hmajor : IsInt major) (hminor : IsInt minor) (rest : List Char)
    {r : Int × Int × List Char}
    (hr : r = if major = 0 ∧ minor = 0 then (riscvUnknownVersion, riscvUnknownVersion, rest)
      else (major, minor, rest)) : TokenVersion r.1 r.2.1 := by
  have hunknown : riscvUnknownVersion ≠ 0 := by decide
  split at hr
  · rw [hr]
    exact ⟨isInt_unknown, isInt_unknown, fun h => hunknown h.1⟩
  · rename_i hzero
    rw [hr]
    exact ⟨hmajor, hminor, hzero⟩

theorem riscvParsingSubsetVersion_ok (p : List Char) :
    TokenVersion (riscvParsingSubsetVersion p).1 (riscvParsingSubsetVersion p).2.1 := by
  obtain ⟨hversion, hmajor⟩ := versionLoop_isInt true 0 0 (by decide) (by decide) p
  have hzero : IsInt 0 := by decide
  refine tokenVersion_of_isInt ?_ ?_ (versionLoop true 0 0 p).2.2.2 rfl
  · split
    · exact hversion
    · exact hmajor
  · split
    · exact hzero
    · exact hversion

end Numbers

/-! ## Names -/

section Names

/-- The search backwards leaves a prefix of the extension, and what it leaves ends in no digit. -/
theorem stripVersion_spec (any minor : Bool) (q : List Char) :
    (∃ v, q = v ++ stripVersion any minor q ∧ ∀ c ∈ v, isDigit c = true ∨ c = 'p') ∧
      ∀ c ∈ (stripVersion any minor q).head?, isDigit c = false := by
  induction q generalizing any minor with
  | nil => exact ⟨⟨[], rfl, by simp⟩, by simp [stripVersion]⟩
  | cons c q ih =>
    rw [stripVersion]
    split
    · rename_i hc
      obtain ⟨⟨v, hv, hall⟩, hhead⟩ := ih true minor
      refine ⟨⟨c :: v, by rw [List.cons_append, ← hv], ?_⟩, hhead⟩
      intro d hd
      rcases List.mem_cons.mp hd with rfl | hd
      · exact .inl hc
      · exact hall d hd
    · rename_i hc
      split
      · rename_i hp
        obtain ⟨⟨v, hv, hall⟩, hhead⟩ := ih any true
        refine ⟨⟨c :: v, by rw [List.cons_append, ← hv], ?_⟩, hhead⟩
        intro d hd
        rcases List.mem_cons.mp hd with rfl | hd
        · exact .inr hp.2.2.1
        · exact hall d hd
      · refine ⟨⟨[], rfl, by simp⟩, ?_⟩
        intro d hd
        cases hd
        exact Bool.not_eq_true _ ▸ hc

theorem stripVersion_digits {ds : List Char} (hne : ds ≠ []) (hds : ∀ c ∈ ds, isDigit c = true)
    (any minor : Bool) (q : List Char) : stripVersion any minor (ds ++ q) = stripVersion true minor q := by
  induction ds generalizing any with
  | nil => exact absurd rfl hne
  | cons d ds ih =>
    rw [List.cons_append, stripVersion, if_pos (hds d List.mem_cons_self)]
    cases ds with
    | nil => rfl
    | cons e ds => exact ih (List.cons_ne_nil e ds) (fun c hc => hds c (List.mem_cons_of_mem d hc)) true

/-- The version that was written is what the search backwards takes off. -/
theorem stripVersion_versionText {n : Name} (hlast : ∀ c ∈ n.getLast?, isDigit c = false) (major minor : Nat) :
    (stripVersion false false (n ++ versionText major minor).reverse).reverse = n := by
  have hdigits (k : Nat) : ∀ c ∈ (Nat.toDigits 10 k).reverse, isDigit c = true :=
    fun c hc => isDigit_of_mem_toDigits (List.mem_reverse.mp hc)
  have hne (k : Nat) : (Nat.toDigits 10 k).reverse ≠ [] := by
    rw [ne_eq, List.reverse_eq_nil_iff]
    exact Nat.toDigits_ne_nil
  have hrev : (n ++ versionText major minor).reverse =
      (Nat.toDigits 10 minor).reverse ++ 'p' :: ((Nat.toDigits 10 major).reverse ++ n.reverse) := by
    simp [versionText]
  have hnext : ((Nat.toDigits 10 major).reverse ++ n.reverse).head?.any isDigit = true := by
    obtain ⟨c, cs, hcs⟩ := List.exists_cons_of_ne_nil (hne major)
    rw [hcs]
    exact hdigits major c (by rw [hcs]; exact List.mem_cons_self)
  rw [hrev, stripVersion_digits (hne minor) (hdigits minor), stripVersion, if_neg (by decide),
    if_pos ⟨rfl, rfl, rfl, hnext⟩, stripVersion_digits (hne major) (hdigits major)]
  -- the name stops the search
  cases hn : n.reverse with
  | nil => rw [List.reverse_eq_nil_iff.mp hn]; rfl
  | cons c q =>
    have hc : isDigit c = false := hlast c (by rw [List.getLast?_eq_head?_reverse, hn]; rfl)
    rw [stripVersion, if_neg (by rw [hc]; exact Bool.false_ne_true), if_neg (by simp), ← hn, List.reverse_reverse]

/-- What may follow the name: a version, an underscore or nothing. -/
def Stops (w : List Char) : Prop := ∀ c ∈ w.head?, isDigit c = true ∨ c = 'p' ∨ c = '_'

theorem class_cons (c : Char) (q : List Char) :
    riscvGetPrefixClass (c :: q) =
      if c = 'z' then if q.take 2 = ['x', 'm'] then .zxm else .z
      else if c = 's' then .s
      else if c = 'x' then .x
      else .single := by
  unfold riscvGetPrefixClass
  split
  · rename_i heq
    cases heq
    rfl
  · rename_i hzxm heq
    cases heq
    rw [if_pos rfl, if_neg]
    intro htake
    refine hzxm (q.drop 2) ?_
    have happ := List.take_append_drop 2 q
    rw [htake] at happ
    rw [← happ]
    rfl
  · rename_i heq
    cases heq
    rfl
  · rename_i heq
    cases heq
    rfl
  · rename_i hz hs hx
    rw [if_neg fun h => hz q (by rw [h]), if_neg fun h => hs q (by rw [h]), if_neg fun h => hx q (by rw [h])]

theorem take_two_append {q w : List Char} (hw : Stops w) : (q ++ w).take 2 = ['x', 'm'] ↔ q.take 2 = ['x', 'm'] := by
  have hx : ¬(isDigit 'x' = true ∨ 'x' = 'p' ∨ 'x' = '_') := by decide
  have hm : ¬(isDigit 'm' = true ∨ 'm' = 'p' ∨ 'm' = '_') := by decide
  match q with
  | [] =>
    cases w with
    | nil => simp
    | cons c w =>
      constructor
      · intro h
        cases w with
        | nil => cases h
        | cons d w =>
          cases h
          exact absurd (hw 'x' rfl) hx
      · intro h
        cases h
  | [a] =>
    cases w with
    | nil => simp
    | cons c w =>
      constructor
      · intro h
        cases h
        exact absurd (hw 'm' rfl) hm
      · intro h
        cases h
  | a :: b :: q => simp

/-- The name keeps the prefix class of the string. -/
theorem class_append_of_ne_nil {n w : List Char} (hn : n ≠ []) (hw : Stops w) :
    riscvGetPrefixClass (n ++ w) = riscvGetPrefixClass n := by
  obtain ⟨c, q, rfl⟩ := List.exists_cons_of_ne_nil hn
  rw [List.cons_append, class_cons, class_cons]
  simp only [take_two_append hw]

theorem class_append {n w : List Char} (hw : Stops w) (h : riscvGetPrefixClass (n ++ w) ≠ .single) :
    riscvGetPrefixClass n = riscvGetPrefixClass (n ++ w) := by
  refine (class_append_of_ne_nil ?_ hw).symm
  -- the letters that start a prefix are none of those that may follow a name
  rintro rfl
  apply h
  cases w with
  | nil => rfl
  | cons c w =>
    have hc := hw c rfl
    rw [List.nil_append, class_cons, if_neg, if_neg, if_neg]
    all_goals
      rintro rfl
      exact absurd hc (by decide)

theorem strippedName_spec (p : List Char) : ∃ w, p = strippedName p ++ w ∧ Stops w ∧ '_' ∉ strippedName p ∧
    ∀ c ∈ (strippedName p).getLast?, isDigit c = false := by
  obtain ⟨⟨v, hv, hall⟩, hhead⟩ := stripVersion_spec false false (p.takeWhile (· ≠ '_')).reverse
  have hseg : p.takeWhile (· ≠ '_') = strippedName p ++ v.reverse := by
    rw [strippedName, ← List.reverse_append, ← hv, List.reverse_reverse]
  refine ⟨v.reverse ++ p.dropWhile (· ≠ '_'), ?_, ?_, ?_, ?_⟩
  · rw [← List.append_assoc, ← hseg, List.takeWhile_append_dropWhile]
  · intro c hc
    rcases List.eq_nil_or_concat v with rfl | ⟨v, d, rfl⟩
    · have hstop := List.head?_dropWhile_not (fun c => decide (c ≠ '_')) p
      rw [List.reverse_nil, List.nil_append] at hc
      rw [Option.mem_def.mp hc] at hstop
      exact .inr (.inr (not_not.mp (of_decide_eq_false hstop)))
    · rw [List.concat_eq_append, List.reverse_append, List.reverse_singleton, List.singleton_append,
        List.cons_append, List.head?_cons, Option.mem_some_iff] at hc
      have hd := hall d (by simp)
      rw [hc] at hd
      exact hd.imp_right .inl
  · intro hmem
    have : '_' ∈ p.takeWhile (· ≠ '_') := by
      rw [hseg]
      exact List.mem_append_left _ hmem
    have hne := List.mem_takeWhile_imp this
    exact of_decide_eq_true hne rfl
  · intro c hc
    rw [strippedName, List.getLast?_reverse] at hc
    exact hhead c hc

/-- The names that can be read from a string, and so can be written to one. -/
structure CleanName (n : Name) : Prop where
  parsed : ParsedName n
  noUnderscore : '_' ∉ n
  last : ∀ c ∈ n.getLast?, isDigit c = false
  noNumberP : endsWithNumberP n = false

instance (priority := 10000) decidableForallMemLetter (p : Char → Prop) [DecidablePred p] (o : Option Char) :
    Decidable (∀ c ∈ o, p c) :=
  Option.decidableForallMem o

instance (n : Name) : Decidable (CleanName n) :=
  decidable_of_iff (ParsedName n ∧ '_' ∉ n ∧ (∀ c ∈ n.getLast?, isDigit c = false) ∧ endsWithNumberP n = false)
    ⟨fun h => ⟨h.1, h.2.1, h.2.2.1, h.2.2.2⟩, fun h => ⟨h.parsed, h.noUnderscore, h.last, h.noNumberP⟩⟩

theorem cleanName_single {c : Char} (h : riscvExtOrder c ≠ 0) : CleanName [c] := by
  obtain ⟨hlow, hhigh⟩ := riscvExtOrder_range (Nat.pos_of_ne_zero h)
  refine ⟨.inl ⟨rfl, Nat.pos_of_ne_zero h⟩, ?_, ?_, ?_⟩
  · intro hmem
    rw [← List.mem_singleton.mp hmem] at h
    exact h rfl
  · intro d hd
    rw [← Option.some.inj hd]
    refine decide_eq_false fun hdigit => ?_
    have h9 : c.toNat ≤ 57 := hdigit.2
    omega
  · rw [endsWithNumberP, List.reverse_singleton]
    split
    · rename_i heq
      cases heq
    · rfl

/-- Without its version an extension still has its class. -/
theorem class_strippedName {p : List Char} (hclass : riscvGetPrefixClass p ≠ .single) :
    riscvGetPrefixClass (strippedName p) = riscvGetPrefixClass p := by
  obtain ⟨w, hw, hstops, -⟩ := strippedName_spec p
  nth_rewrite 2 [hw]
  exact class_append hstops (by rwa [← hw])

/-- What is known about an extension that was read. -/
structure TokenOk (check : Bool) (p : List Char) (t : Token) (rest : List Char) : Prop where
  clean : CleanName t.name
  version : TokenVersion t.major t.minor
  suffix : rest <:+ p
  shorter : rest.length < p.length
  recognized : check = true → riscvGetPrefixClass t.name ≠ .single → riscvRecognizedPrefixedExt t.name = true

theorem nextToken_ok {check : Bool} {arch p rest : List Char} {t : Token} (hp : ∀ c ∈ p, isUpper c = false)
    (h : nextToken check arch p = .ok (t, rest)) : TokenOk check p t rest := by
  unfold nextToken at h
  split at h
  · split at h
    · cases h
    · rename_i c q _
      split at h
      · cases h
      · rename_i hc
        cases h
        have hsuffix := riscvParsingSubsetVersion_suffix q
        refine ⟨cleanName_single hc, riscvParsingSubsetVersion_ok q, hsuffix.trans (List.suffix_cons c q),
          Nat.lt_succ_of_le hsuffix.length_le, ?_⟩
        intro _ hclass
        have horder : 0 < headOrder [c] := Nat.pos_of_ne_zero hc
        exact absurd (class_eq_single_of_headOrder horder) hclass
  · rename_i hclass
    dsimp only at h
    split at h
    · cases h
    · rename_i hnumber
      split at h
      · cases h
      · rename_i hrecognized
        cases h
        obtain ⟨w, hw, hstops, hunderscore, hlast⟩ := strippedName_spec p
        have hsame := class_strippedName hclass
        have hne : 0 < (strippedName p).length := by
          refine List.length_pos_of_ne_nil fun hnil => ?_
          rw [hnil] at hsame
          exact hclass hsame.symm
        have hdrop : p.drop (strippedName p).length = w := by
          nth_rewrite 2 [hw]
          exact List.drop_left
        have hlen : p.length = (strippedName p).length + w.length := by
          nth_rewrite 1 [hw]
          exact List.length_append
        have hsuffix := riscvParsingSubsetVersion_suffix w
        rw [hdrop]
        refine ⟨⟨.inr ⟨hsame ▸ hclass, ?_⟩, hunderscore, hlast, Bool.not_eq_true _ ▸ hnumber⟩,
          riscvParsingSubsetVersion_ok w, hsuffix.trans ⟨strippedName p, hw.symm⟩, ?_, ?_⟩
        · intro c hc
          refine hp c ?_
          rw [hw]
          exact List.mem_append_left w hc
        · have := hsuffix.length_le
          omega
        · intro hcheck _
          by_contra hrec
          exact hrecognized ⟨hcheck, Bool.not_eq_true _ ▸ hrec⟩

end Names

/-! ## Reading back what was written -/

section Written

variable {check : Bool} {arch : List Char}

theorem stops_versionText (major minor : Nat) (rest : List Char) : Stops (versionText major minor ++ rest) := by
  intro c hc
  have hdigit := toDigits_append_head? major ('p' :: Nat.toDigits 10 minor ++ rest)
  rw [versionText, List.append_assoc] at hc
  rw [Option.mem_def.mp hc] at hdigit
  exact .inl hdigit

theorem underscore_notMem_versionText (major minor : Nat) : '_' ∉ versionText major minor := by
  have hdigits (k : Nat) : '_' ∉ Nat.toDigits 10 k := by
    intro h
    exact absurd (isDigit_of_mem_toDigits h) (by decide)
  intro h
  rcases List.mem_append.mp h with h | h
  · exact hdigits major h
  · rcases List.mem_cons.mp h with h | h
    · exact absurd h (by decide)
    · exact hdigits minor h

theorem takeWhile_atBreak {q rest : List Char} (hq : '_' ∉ q) (hrest : AtBreak rest) :
    (q ++ rest).takeWhile (· ≠ '_') = q := by
  rw [List.takeWhile_append_of_pos]
  · cases rest with
    | nil => simp
    | cons c rest =>
      cases hrest c rfl
      simp
  · intro c hc
    exact decide_eq_true fun h => hq (h ▸ hc)

theorem strippedName_written {n : Name} (hn : CleanName n) (major minor : Nat) {rest : List Char}
    (hrest : AtBreak rest) : strippedName (n ++ versionText major minor ++ rest) = n := by
  have hunderscore : '_' ∉ n ++ versionText major minor := by
    rw [List.mem_append]
    exact not_or_intro hn.noUnderscore (underscore_notMem_versionText major minor)
  rw [strippedName, takeWhile_atBreak hunderscore hrest, stripVersion_versionText hn.last]

theorem CleanName.ne_nil {n : Name} (h : CleanName n) : n ≠ [] := by
  rintro rfl
  rcases h.parsed with h | h
  · exact absurd h.1 (by decide)
  · exact h.1 rfl

/-- An extension that was written with its version is read back. -/
theorem nextToken_written {n : Name} (hn : CleanName n) {major minor : Nat} (hmajor : (major : Int) ≤ intMax)
    (hminor : (minor : Int) ≤ intMax) (hknown : ¬(major = 0 ∧ minor = 0)) {rest : List Char} (hrest : AtBreak rest)
    (hrec : check = true → riscvGetPrefixClass n ≠ .single → riscvRecognizedPrefixedExt n = true) :
    nextToken check arch (n ++ versionText major minor ++ rest) = .ok (⟨n, major, minor⟩, rest) := by
  have hclass : riscvGetPrefixClass (n ++ versionText major minor ++ rest) = riscvGetPrefixClass n := by
    rw [List.append_assoc]
    exact class_append_of_ne_nil hn.ne_nil (stops_versionText major minor rest)
  have hversion := riscvParsingSubsetVersion_versionText hmajor hminor hknown hrest
  unfold nextToken
  rw [hclass]
  by_cases hsingle : riscvGetPrefixClass n = .single
  · obtain ⟨hlen, horder⟩ := hn.parsed.resolve_right fun h => h.1 hsingle
    obtain ⟨c, rfl⟩ := List.length_eq_one_iff.mp hlen
    rw [hsingle]
    dsimp only [List.cons_append, List.nil_append]
    have hne : riscvExtOrder c ≠ 0 := Nat.pos_iff_ne_zero.mp horder
    rw [if_neg hne, hversion]
  · split
    · rename_i h
      exact absurd h hsingle
    · rw [strippedName_written hn major minor hrest]
      dsimp only
      rw [hn.noNumberP, if_neg Bool.false_ne_true, List.append_assoc, List.drop_left, hversion, if_neg]
      rintro ⟨hcheck, hunknown⟩
      rw [hrec hcheck hsingle] at hunknown
      cases hunknown

/-- The extensions of a list as they are written, each after an underscore. -/
def written (ts : List Token) : List Char :=
  ts.flatMap fun t => '_' :: (t.name ++ versionText t.major.toNat t.minor.toNat)

/-- An extension that can be written and read back. -/
structure Writable (check : Bool) (t : Token) : Prop where
  clean : CleanName t.name
  major : 0 ≤ t.major ∧ t.major ≤ intMax
  minor : 0 ≤ t.minor ∧ t.minor ≤ intMax
  known : ¬(t.major = 0 ∧ t.minor = 0)
  recognized : check = true → riscvGetPrefixClass t.name ≠ .single → riscvRecognizedPrefixedExt t.name = true

theorem atBreak_written (ts : List Token) : AtBreak (written ts) := by
  intro c hc
  cases ts with
  | nil => cases hc
  | cons t ts => exact (Option.some.inj hc).symm

/-- The loop on an extension that was written, at the start of the string. -/
theorem scanExtensions_cons {t : Token} (ht : Writable check t) {rest : List Char} (hrest : AtBreak rest) {fuel : Nat} :
    scanExtensions check arch (fuel + 1) (t.name ++ versionText t.major.toNat t.minor.toNat ++ rest) =
      (t :: (scanExtensions check arch fuel rest).1, (scanExtensions check arch fuel rest).2) := by
  have hknown : ¬(t.major.toNat = 0 ∧ t.minor.toNat = 0) := by
    have h := ht.known
    have h1 := ht.major.1
    have h2 := ht.minor.1
    omega
  have hmajor := Int.toNat_of_nonneg ht.major.1
  have hminor := Int.toNat_of_nonneg ht.minor.1
  have htoken : nextToken check arch _ = _ := nextToken_written ht.clean (hmajor.trans_le ht.major.2)
    (hminor.trans_le ht.minor.2) hknown hrest ht.recognized
  rw [hmajor, hminor] at htoken
  obtain ⟨c, q, hcq⟩ := List.exists_cons_of_ne_nil ht.clean.ne_nil
  have hc : c ≠ '_' := by
    rintro rfl
    exact ht.clean.noUnderscore (by rw [hcq]; exact List.mem_cons_self)
  have hbreak : ¬rest.head?.any (· ≠ '_') = true := by
    intro h
    obtain ⟨d, hd, hne⟩ := (Option.any_eq_true _ _).mp h
    exact of_decide_eq_true hne (hrest d hd)
  have hp : t.name ++ versionText t.major.toNat t.minor.toNat ++ rest =
      c :: (q ++ versionText t.major.toNat t.minor.toNat ++ rest) := by
    rw [hcq]
    rfl
  rw [hp] at htoken ⊢
  rw [scanExtensions, if_neg hc, htoken]
  dsimp only
  rw [if_neg fun h => hbreak h.2]

theorem scanExtensions_written {ts : List Token} (hts : ∀ t ∈ ts, Writable check t) {fuel : Nat}
    (hfuel : (written ts).length ≤ fuel) : scanExtensions check arch fuel (written ts) = (ts, none) := by
  induction ts generalizing fuel with
  | nil =>
    cases fuel with
    | zero => rfl
    | succ fuel => rfl
  | cons t ts ih =>
    have ht := hts t List.mem_cons_self
    have hsplit : written (t :: ts) =
        '_' :: (t.name ++ versionText t.major.toNat t.minor.toNat ++ written ts) := rfl
    have hpos := List.length_pos_of_ne_nil ht.clean.ne_nil
    rw [hsplit] at hfuel ⊢
    rw [List.length_cons, List.length_append, List.length_append] at hfuel
    obtain ⟨fuel, rfl⟩ : ∃ k, fuel = k + 2 := ⟨fuel - 2, by omega⟩
    rw [scanExtensions, if_pos rfl, scanExtensions_cons ht (atBreak_written ts),
      ih (fun u hu => hts u (List.mem_cons_of_mem t hu)) (by omega)]

end Written

/-! ## The extensions of a string -/

section Tokens

/-- Everything read from a string without upper-case letters has a name that can be written. -/
theorem scanExtensions_clean {check : Bool} {arch : List Char} {fuel : Nat} {p : List Char}
    (hp : ∀ c ∈ p, isUpper c = false) : ∀ t ∈ (scanExtensions check arch fuel p).1,
      CleanName t.name ∧ TokenVersion t.major t.minor ∧
        (check = true → riscvGetPrefixClass t.name ≠ .single → riscvRecognizedPrefixedExt t.name = true) := by
  induction fuel generalizing p with
  | zero => simp [scanExtensions]
  | succ fuel ih =>
    cases p with
    | nil => simp [scanExtensions]
    | cons c p =>
      rw [scanExtensions]
      split
      · exact ih fun d hd => hp d (List.mem_cons_of_mem c hd)
      · split
        · simp
        · rename_i t rest htoken
          have hok := nextToken_ok hp htoken
          split
          · intro u hu
            rw [List.mem_singleton.mp hu]
            exact ⟨hok.clean, hok.version, hok.recognized⟩
          · intro u hu
            rcases List.mem_cons.mp hu with rfl | hu
            · exact ⟨hok.clean, hok.version, hok.recognized⟩
            · exact ih (fun d hd => hp d (hok.suffix.subset hd)) u hu

end Tokens

end RiscvBinutils.Isa
