/-
Versions as the C code computes them (bfd/elfxx-riscv.c, `riscv_parsing_subset_version`): the number goes through
an `int` that nothing bounds, and every p with a digit behind it starts another number.
-/
import Mathlib.Tactic
import RiscvBinutils.Isa.Scan

namespace RiscvBinutils.Isa

open Std RiscvBinutils.Base

/-! ## Reading a version -/

/-- The values that are computed for `version`, before they are stored in it. -/
def versionSums : (version : Int) → List Char → List Int
  | _, [] => []
  | version, c :: p =>
    if c = 'p' then if p.head?.any isDigit then versionSums 0 p else []
    else if isDigit c then nextSum version c :: versionSums (toInt (nextSum version c)) p
    else []

/-- Where `riscv_parse_extensions` begins to read the version of an extension. -/
def versionStart (p : List Char) : List Char :=
  match riscvGetPrefixClass p with
  | .single => p.drop 1
  | _ => p.drop (strippedName p).length

/-! ## Versions in a string -/

/-- A number as it stands in a string. -/
structure Digits where
  chars : List Char
  nonempty : chars ≠ []
  digits : ∀ c ∈ chars, isDigit c = true

def Digits.value (d : Digits) : Nat := numberFrom 0 d.chars

/-- `<major>` or `<major>p<minor>`. -/
structure WrittenVersion where
  major : Digits
  minor : Option Digits

def WrittenVersion.text (v : WrittenVersion) : List Char := v.major.chars ++ v.minor.elim [] fun d => 'p' :: d.chars

/-- A number as it is usually written. -/
def Digits.ofNat (n : Nat) : Digits := ⟨Nat.toDigits 10 n, Nat.toDigits_ne_nil, fun _ => isDigit_of_mem_toDigits⟩

/-- The minor version, which is 0 if it is not written. -/
def WrittenVersion.minorValue (v : WrittenVersion) : Nat := v.minor.elim 0 Digits.value

/-- What may stand behind the version of an extension: anything but another digit, and nothing but an underscore
behind a prefixed extension. -/
def Follows (n : Name) (rest : List Char) : Prop :=
  (∀ c ∈ rest.head?, isDigit c = false) ∧ (riscvGetPrefixClass n ≠ .single → AtBreak rest)

/-- The version of the extension at `p` is read as it is written, through numbers an `int` can hold. -/
structure ReadAsWritten (p : List Char) (v : WrittenVersion) (rest : List Char) : Prop where
  result : riscvParsingSubsetVersion (versionStart p) = ((v.major.value : Int), (v.minorValue : Int), rest)
  range : ∀ sum ∈ versionSums 0 (versionStart p), sum ≤ intMax

/-- A p that looks like the separator of a version. -/
def BeginsNumberP (rest : List Char) : Prop := rest.head? = some 'p' ∧ (rest.drop 1).head?.any isDigit = true

/-! ## Reading digits -/

section Numbers

variable {ds rest : List Char} {v : Nat}

theorem versionSums_digits (hds : ∀ c ∈ ds, isDigit c = true) (hv : (v : Int) ≤ intMax) :
    (∀ sum ∈ versionSums v (ds ++ rest), sum ≤ intMax) ↔
      (numberFrom v ds : Int) ≤ intMax ∧ ∀ sum ∈ versionSums (numberFrom v ds) rest, sum ≤ intMax := by
  induction ds generalizing v with
  | nil => exact (and_iff_right hv).symm
  | cons c ds ih =>
    have hc := hds c List.mem_cons_self
    rw [List.cons_append, versionSums, if_neg (ne_p_of_isDigit hc), if_pos hc, nextSum_natCast, List.forall_mem_cons]
    by_cases hle : ((v * 10 + (c.toNat - '0'.toNat) : Nat) : Int) ≤ intMax
    · rw [and_iff_right hle, toInt_of_range (Int.natCast_nonneg _) hle]
      exact ih (fun d hd => hds d (List.mem_cons_of_mem c hd)) hle
    · constructor
      · rintro ⟨h, -⟩
        exact absurd h hle
      · rintro ⟨h, -⟩
        exact absurd (Int.le_trans (Int.ofNat_le.mpr (le_numberFrom (v * 10 + (c.toNat - '0'.toNat)) ds)) h) hle

theorem head?_digits (d : Digits) (rest : List Char) : (d.chars ++ rest).head?.any isDigit = true := by
  obtain ⟨c, cs, hcs⟩ := List.exists_cons_of_ne_nil d.nonempty
  rw [hcs]
  exact d.digits c (by rw [hcs]; exact List.mem_cons_self)

/-- Where the digits end and no p with a digit follows, the loop ends. -/
theorem versionLoop_end (hrest : ∀ c ∈ rest.head?, isDigit c = false) (hp : ¬BeginsNumberP rest) (majorP : Bool)
    (version major : Int) :
    versionLoop majorP version major rest = (majorP, version, major, rest) ∧ versionSums version rest = [] := by
  cases rest with
  | nil => exact ⟨rfl, rfl⟩
  | cons c rest =>
    have hdigit : ¬isDigit c = true := by
      rw [hrest c rfl]
      exact Bool.false_ne_true
    rw [versionLoop, versionSums]
    by_cases hc : c = 'p'
    · have hnext : ¬rest.head?.any isDigit = true := by
        intro hnext
        exact hp ⟨by rw [hc]; rfl, hnext⟩
      rw [if_pos hc, if_pos hc, if_neg hnext, if_neg hnext]
      exact ⟨rfl, rfl⟩
    · rw [if_neg hc, if_neg hc, if_neg hdigit, if_neg hdigit]
      exact ⟨rfl, rfl⟩

/-- A p with a digit behind it is not left where it is. -/
theorem versionLoop_numberP (hp : BeginsNumberP rest) (majorP : Bool) (version major : Int) :
    (versionLoop majorP version major rest).2.2.2 ≠ rest := by
  obtain ⟨hhead, hnext⟩ := hp
  obtain ⟨rest, rfl⟩ := List.head?_eq_some_iff.mp hhead
  have hnext : rest.head?.any isDigit = true := hnext
  rw [versionLoop, if_pos rfl, if_pos hnext]
  intro heq
  have hlen := (versionLoop_suffix false 0 version rest).length_le
  rw [heq, List.length_cons] at hlen
  omega

end Numbers

/-! ## Where the version is -/

section Start

variable {n : Name} {v : WrittenVersion} {rest : List Char}

theorem WrittenVersion.stops (v : WrittenVersion) (rest : List Char) : Stops (v.text ++ rest) := by
  intro c hc
  have hdigit := head?_digits v.major ((v.minor.elim [] fun d => 'p' :: d.chars) ++ rest)
  rw [WrittenVersion.text, List.append_assoc] at hc
  rw [Option.mem_def.mp hc] at hdigit
  exact .inl hdigit

theorem Digits.underscore_notMem (d : Digits) : '_' ∉ d.chars :=
  fun h => absurd (d.digits '_' h) (by decide)

theorem WrittenVersion.underscore_notMem (v : WrittenVersion) : '_' ∉ v.text := by
  intro h
  rcases List.mem_append.mp h with h | h
  · exact v.major.underscore_notMem h
  · cases hminor : v.minor with
    | none =>
      rw [hminor] at h
      cases h
    | some d =>
      rw [hminor] at h
      rcases List.mem_cons.mp h with h | h
      · exact absurd h (by decide)
      · exact d.underscore_notMem h

/-- The search backwards for the name ends at the name. -/
theorem stripVersion_name (hn : CleanName n) (any minor : Bool) : stripVersion any minor n.reverse = n.reverse := by
  cases hrev : n.reverse with
  | nil => rfl
  | cons c q =>
    have hc : isDigit c = false := hn.last c (by rw [List.getLast?_eq_head?_reverse, hrev]; rfl)
    rw [stripVersion, if_neg (by rw [hc]; exact Bool.false_ne_true), if_neg]
    rintro ⟨-, -, rfl, hnext⟩
    have hnumber := hn.noNumberP
    rw [endsWithNumberP, hrev] at hnumber
    cases q with
    | nil => cases hnext
    | cons d q =>
      have hd : isDigit d = true := hnext
      have hd' : isDigit d = false := hnumber
      rw [hd] at hd'
      cases hd'

theorem stripVersion_text (hn : CleanName n) (v : WrittenVersion) :
    (stripVersion false false (n ++ v.text).reverse).reverse = n := by
  have hne (d : Digits) : d.chars.reverse ≠ [] := by
    rw [ne_eq, List.reverse_eq_nil_iff]
    exact d.nonempty
  have hdigits (d : Digits) : ∀ c ∈ d.chars.reverse, isDigit c = true :=
    fun c hc => d.digits c (List.mem_reverse.mp hc)
  rw [WrittenVersion.text, List.reverse_append, List.reverse_append]
  cases v.minor with
  | none =>
    rw [Option.elim_none, List.reverse_nil, List.nil_append, stripVersion_digits (hne _) (hdigits _),
      stripVersion_name hn, List.reverse_reverse]
  | some d =>
    have hnext : (v.major.chars.reverse ++ n.reverse).head?.any isDigit = true := by
      obtain ⟨c, cs, hcs⟩ := List.exists_cons_of_ne_nil (hne v.major)
      rw [hcs]
      exact hdigits v.major c (by rw [hcs]; exact List.mem_cons_self)
    rw [Option.elim_some, List.reverse_cons, List.append_assoc, List.append_assoc,
      stripVersion_digits (hne d) (hdigits d), List.singleton_append, stripVersion, if_neg (by decide),
      if_pos ⟨rfl, rfl, rfl, hnext⟩, stripVersion_digits (hne _) (hdigits _), stripVersion_name hn,
      List.reverse_reverse]

/-- The version is read from behind the name. -/
theorem versionStart_written (hn : CleanName n) (hrest : Follows n rest) :
    versionStart (n ++ v.text ++ rest) = v.text ++ rest := by
  have hclass : riscvGetPrefixClass (n ++ v.text ++ rest) = riscvGetPrefixClass n := by
    rw [List.append_assoc]
    exact class_append_of_ne_nil hn.ne_nil (v.stops rest)
  rw [versionStart, hclass]
  by_cases hsingle : riscvGetPrefixClass n = .single
  · obtain ⟨hlen, -⟩ := hn.parsed.resolve_right fun h => h.1 hsingle
    obtain ⟨c, rfl⟩ := List.length_eq_one_iff.mp hlen
    rw [hsingle]
    rfl
  · have hunderscore : '_' ∉ n ++ v.text := by
      rw [List.mem_append]
      exact not_or_intro hn.noUnderscore v.underscore_notMem
    have hname : strippedName (n ++ v.text ++ rest) = n := by
      rw [strippedName, takeWhile_atBreak hunderscore (hrest.2 hsingle), stripVersion_text hn]
    rw [hname, List.append_assoc, List.drop_left]
    split
    · rename_i h
      exact absurd h hsingle
    · rfl

/-- The loop over a version, where the numbers are not too large. -/
theorem versionLoop_text (hmajor : (v.major.value : Int) ≤ intMax) (hminor : (v.minorValue : Int) ≤ intMax) :
    versionLoop true 0 0 (v.text ++ rest) =
      v.minor.elim (versionLoop true v.major.value 0 rest) fun d =>
        versionLoop false d.value v.major.value rest := by
  have hstart := @versionLoop_digits v.major.chars (v.minor.elim [] (fun d => 'p' :: d.chars) ++ rest) 0
    v.major.digits hmajor true 0
  rw [WrittenVersion.text, List.append_assoc]
  refine hstart.trans ?_
  rw [WrittenVersion.minorValue] at hminor
  cases hv : v.minor with
  | none => rfl
  | some d =>
    rw [hv] at hminor
    have hnext := head?_digits d rest
    rw [Option.elim_some, List.cons_append, versionLoop, if_pos rfl, if_pos hnext]
    exact @versionLoop_digits d.chars rest 0 d.digits hminor false v.major.value

/-- The number that is read last. -/
def WrittenVersion.last (v : WrittenVersion) : Nat := v.minor.elim v.major.value Digits.value

theorem versionSums_text (v : WrittenVersion) (rest : List Char) :
    (∀ sum ∈ versionSums 0 (v.text ++ rest), sum ≤ intMax) ↔
      (v.major.value : Int) ≤ intMax ∧ (v.minorValue : Int) ≤ intMax ∧
        ∀ sum ∈ versionSums v.last rest, sum ≤ intMax := by
  have hzero : ((0 : Nat) : Int) ≤ intMax := by decide
  rw [WrittenVersion.text, List.append_assoc]
  refine (versionSums_digits v.major.digits hzero).trans (and_congr_right fun _ => ?_)
  rw [WrittenVersion.minorValue, WrittenVersion.last]
  cases v.minor with
  | none => exact (and_iff_right hzero).symm
  | some d =>
    have hnext := head?_digits d rest
    rw [Option.elim_some, Option.elim_some, List.cons_append, versionSums, if_pos rfl, if_pos hnext]
    exact versionSums_digits d.digits hzero

end Start

/-! ## Versions are read as they are written -/

/-- Reading a version whose numbers are not too large. -/
theorem riscvParsingSubsetVersion_text {v : WrittenVersion} {rest : List Char} (hmajor : (v.major.value : Int) ≤ intMax)
    (hminor : (v.minorValue : Int) ≤ intMax) (hrest : ∀ c ∈ rest.head?, isDigit c = false)
    (hp : ¬BeginsNumberP rest) : riscvParsingSubsetVersion (v.text ++ rest) =
      if v.major.value = 0 ∧ v.minorValue = 0 then (riscvUnknownVersion, riscvUnknownVersion, rest)
      else ((v.major.value : Int), (v.minorValue : Int), rest) := by
  have hend (majorP : Bool) (version major : Int) := (versionLoop_end hrest hp majorP version major).1
  rw [riscvParsingSubsetVersion, versionLoop_text hmajor hminor, WrittenVersion.minorValue]
  cases v.minor with
  | none =>
    rw [Option.elim_none, Option.elim_none, hend]
    simp
  | some d =>
    rw [Option.elim_some, Option.elim_some, hend]
    simp

/-- The version of an extension is read as it is written exactly if the numbers fit in an `int`, are not both
zero, and no p with a digit follows. -/
theorem readAsWritten_iff (n : Name) (hn : CleanName n) (v : WrittenVersion) (rest : List Char)
    (hrest : Follows n rest) : ReadAsWritten (n ++ v.text ++ rest) v rest ↔
      (v.major.value : Int) ≤ intMax ∧ (v.minorValue : Int) ≤ intMax ∧
        ¬(v.major.value = 0 ∧ v.minorValue = 0) ∧ ¬BeginsNumberP rest := by
  have hstart : versionStart (n ++ v.text ++ rest) = v.text ++ rest := versionStart_written hn hrest
  constructor
  · rintro ⟨hread, hrange⟩
    rw [hstart] at hread hrange
    obtain ⟨hmajor, hminor, -⟩ := (versionSums_text v rest).mp hrange
    have hp : ¬BeginsNumberP rest := by
      intro hp
      have hleft := riscvParsingSubsetVersion_rest (v.text ++ rest)
      rw [hread, versionLoop_text hmajor hminor] at hleft
      cases hv : v.minor with
      | none =>
        rw [hv] at hleft
        exact versionLoop_numberP hp _ _ _ hleft.symm
      | some d =>
        rw [hv] at hleft
        exact versionLoop_numberP hp _ _ _ hleft.symm
    refine ⟨hmajor, hminor, fun hzero => ?_, hp⟩
    rw [riscvParsingSubsetVersion_text hmajor hminor hrest.1 hp, if_pos hzero, hzero.1] at hread
    cases hread
  · rintro ⟨hmajor, hminor, hzero, hp⟩
    refine ⟨?_, ?_⟩
    · rw [hstart, riscvParsingSubsetVersion_text hmajor hminor hrest.1 hp, if_neg hzero]
    · rw [hstart, versionSums_text, (versionLoop_end hrest.1 hp true v.last 0).2]
      exact ⟨hmajor, hminor, fun sum hsum => absurd hsum List.not_mem_nil⟩

/-- Versions that are not read as they are written: i2p1 with p2p0 behind it, i0p0, and a number that is too large. -/
theorem versions_misread :
    ¬ReadAsWritten (['i'] ++ WrittenVersion.text ⟨.ofNat 2, some (.ofNat 1)⟩ ++ "p2p0".toList)
        ⟨.ofNat 2, some (.ofNat 1)⟩ "p2p0".toList ∧
      ¬ReadAsWritten (['i'] ++ WrittenVersion.text ⟨.ofNat 0, some (.ofNat 0)⟩ ++ []) ⟨.ofNat 0, some (.ofNat 0)⟩ [] ∧
      ¬ReadAsWritten (['i'] ++ WrittenVersion.text ⟨.ofNat 2147483648, none⟩ ++ []) ⟨.ofNat 2147483648, none⟩ [] := by
  refine ⟨fun h => absurd h.result (by decide), fun h => absurd h.result (by decide), fun h => ?_⟩
  exact absurd h.result (by decide)

/-- i2p1 with another extension behind it. -/
theorem i2p1_readAsWritten :
    ReadAsWritten (['i'] ++ WrittenVersion.text ⟨.ofNat 2, some (.ofNat 1)⟩ ++ "_m2p0".toList)
      ⟨.ofNat 2, some (.ofNat 1)⟩ "_m2p0".toList :=
  (readAsWritten_iff ['i'] (cleanName_single (by decide)) ⟨.ofNat 2, some (.ofNat 1)⟩ "_m2p0".toList
    ⟨by decide, fun h => absurd rfl h⟩).mpr ⟨by decide, by decide, by decide, fun h => absurd h.1 (by decide)⟩

end RiscvBinutils.Isa
