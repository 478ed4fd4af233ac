/-
All accesses to the table `riscv_ext_order` that an ISA string causes (bfd/elfxx-riscv.c, bfd/elfnn-riscv.c): in
the search for its extensions, in every search of the list of subsets, and in a merge of two lists; and the
characters that are read before the start of the copy of a name.  What is read outside the table does not matter:
the question is whether it comes to such an access at all.
-/
import RiscvBinutils.Isa.Compare

namespace RiscvBinutils.Isa

open Std RiscvBinutils.Base

/-! ## Accesses to the table -/

/-- The loop of `riscv_lookup_subset`. -/
def scanAccesses (subset : Name) : List Subset → List Char
  | [] => []
  | s :: rest =>
    compareAccesses s.name subset ++
      if riscvCompareSubsets s.name subset = .lt then scanAccesses subset rest else []

/-- `riscv_lookup_subset`, and `riscv_add_subset`, which begins with it. -/
def lookupAccesses (l : SubsetList) (subset : Name) : List Char :=
  match l.tail with
  | none => scanAccesses subset l.nodes
  | some t =>
    compareAccesses t subset ++ if riscvCompareSubsets t subset = .lt then [] else scanAccesses subset l.nodes

/-- `riscv_parse_add_subset`. -/
def parseAddAccesses (rps : Rps) (st : ParseState) (subset : Name) (major minor : Int) (implicit : Bool) : List Char :=
  let v := resolveVersion rps.isaSpec subset major minor
  if implicit = false ∧ (v.1 = riscvUnknownVersion ∨ v.2 = riscvUnknownVersion) then []
  else lookupAccesses st.list subset

/-- A row of the table of implied extensions. -/
def rowAccesses (l : SubsetList) (r : ImplicitSubset) : List Char :=
  lookupAccesses l r.subsetName ++ if (l.find r.subsetName).isSome then lookupAccesses l r.implicitName else []

/-- The loop of `riscv_parse_add_implicit_subsets`: the rows up to the first that adds something, and so on. -/
def implicitLoopAccesses (rps : Rps) (rows : List ImplicitSubset) : (fuel : Nat) → ParseState → List Char
  | 0, _ => []
  | fuel + 1, st =>
    (rows.takeWhile fun r => !r.fires st.list).flatMap (rowAccesses st.list) ++
      match rows.find? (·.fires st.list) with
      | none => []
      | some r =>
        rowAccesses st.list r ++ parseAddAccesses rps st r.implicitName riscvUnknownVersion riscvUnknownVersion true ++
          implicitLoopAccesses rps rows fuel
            (riscvParseAddSubset rps st r.implicitName riscvUnknownVersion riscvUnknownVersion true)

/-- `riscv_parse_check_conflicts`. -/
def conflictAccesses (l : SubsetList) : List Char :=
  lookupAccesses l ['e'] ++ (if l.supports ['e'] then lookupAccesses l ['h'] else []) ++ lookupAccesses l ['q'] ++
    lookupAccesses l "zcf".toList ++ lookupAccesses l "zfinx".toList ++
    (if l.supports "zfinx".toList then lookupAccesses l ['f'] else []) ++ lookupAccesses l "xtheadvector".toList ++
    (if l.supports "xtheadvector".toList then lookupAccesses l ['v'] else [])

/-- What follows every change of the list: the implied extensions and the conflicts. -/
def closeAccesses (rps : Rps) (st : ParseState) : List Char :=
  implicitLoopAccesses rps riscvImplicitSubsets (riscvImplicitSubsets.length + 1) st ++
    conflictAccesses (riscvParseAddImplicitSubsets rps st).list

/-- The loop of `riscv_parse_extensions` without the list: an extension that has no prefix class is looked up by
its first character. -/
def startAccesses (check : Bool) (arch : List Char) : (fuel : Nat) → List Char → List Char
  | 0, _ => []
  | _ + 1, [] => []
  | fuel + 1, c :: p =>
    if c = '_' then startAccesses check arch fuel p
    else
      (if riscvGetPrefixClass (c :: p) = .single then [c] else []) ++
        match nextToken check arch (c :: p) with
        | .error _ => []
        | .ok (_, rest) =>
          if riscvGetPrefixClass (c :: p) ≠ .single ∧ rest.head?.any (· ≠ '_') then []
          else startAccesses check arch fuel rest

/-- The additions of `riscv_parse_extensions`. -/
def tokensAccesses (rps : Rps) : List Token → ParseState → List Char
  | [], _ => []
  | t :: ts, st =>
    (if t.name = ['g'] then parseAddAccesses rps st t.name riscvUnknownVersion riscvUnknownVersion true
      else parseAddAccesses rps st t.name t.major t.minor false) ++ tokensAccesses rps ts (addToken rps st t)

/-- `riscv_parse_extensions`. -/
def extensionsAccesses (rps : Rps) (arch p : List Char) (st : ParseState) : List Char :=
  if p.head? = some 'e' ∨ p.head? = some 'i' ∨ p.head? = some 'g' then
    startAccesses rps.checkUnknownPrefixedExt arch p.length p ++
      tokensAccesses rps (scanExtensions rps.checkUnknownPrefixedExt arch p.length p).1 st
  else []

/-- `riscv_parse_subset`. -/
def parseAccesses (rps : Rps) (arch : Option (List Char)) (st : ParseState) : List Char :=
  match arch with
  | none =>
    parseAddAccesses rps st ['g'] riscvUnknownVersion riscvUnknownVersion true ++
      closeAccesses rps (riscvSetDefaultArch rps st)
  | some arch =>
    if arch.any isUpper then []
    else
      match archXlen arch with
      | none => []
      | some (xlen, p) =>
        extensionsAccesses rps arch p { st with xlen } ++
          match riscvParseExtensions rps arch p { st with xlen } with
          | (false, _) => []
          | (true, st) => closeAccesses rps st

/-- The part of the loop of `riscv_update_subset` that reads one extension. -/
def nextUpdateAccesses (p : List Char) : List Char :=
  let name := updateName p
  if 1 < (p.takeWhile (· ≠ ',')).length ∧ endsWithNumberP name then []
  else if name.length = 1 then [charAt name]
  else []

/-- The loop of `riscv_update_subset`; a removal compares names as strings. -/
def updateLoopAccesses (rps : Rps) (str : List Char) : (fuel : Nat) → List Char → ParseState → List Char
  | 0, _, _ => []
  | fuel + 1, p, st =>
    let signed : Option (Bool × List Char) :=
      match p with
      | '+' :: q => some (false, q)
      | '-' :: q => some (true, q)
      | _ => none
    match signed with
    | none => parseAccesses rps (some p) { st with list := riscvReleaseSubsetList st.list }
    | some (removed, q) =>
      nextUpdateAccesses q ++
        match nextUpdate rps.checkUnknownPrefixedExt str q with
        | .error _ => []
        | .ok (t, rest) =>
          let st' :=
            if removed then { st with list := riscvRemoveSubset st.list t.name }
            else riscvParseAddSubset rps st t.name t.major t.minor true
          (if removed then [] else parseAddAccesses rps st t.name t.major t.minor true) ++
            match rest with
            | ',' :: rest => updateLoopAccesses rps str fuel rest st'
            | _ => closeAccesses rps st'

/-- `riscv_update_subset`. -/
def updateAccesses (rps : Rps) (str : List Char) (st : ParseState) : List Char :=
  updateLoopAccesses rps str (str.length + 1) str st

/-! ## Accesses of a merge -/

/-- One round of the loop over the standard extensions. -/
def mergeLetterAccesses (st : MergeState) (c : Char) : List Char :=
  lookupAccesses st.inSubsets [c] ++ lookupAccesses st.outSubsets [c] ++
    match (st.outSubsets.find [c]).or (st.inSubsets.find [c]) with
    | none => []
    | some merged => lookupAccesses st.mergedSubsets merged.name

/-- The loop over the standard extensions. -/
def mergeLettersAccesses : List Char → MergeState → List Char
  | [], _ => []
  | c :: cs, st => mergeLetterAccesses st c ++ mergeLettersAccesses cs (mergeStdLetter st c)

/-- `riscv_merge_std_ext`. -/
def mergeStdAccesses (inArch outArch : List Char) (st : MergeState) : List Char :=
  match riscvMergeStdExt inArch outArch st, st.inSubsets.nodes, st.outSubsets.nodes with
  | .ok _, s :: _, out :: _ =>
    lookupAccesses st.mergedSubsets out.name ++ mergeLettersAccesses standardExts (st.mergeBoth s out)
  | _, _, _ => []

/-- The rest of one list in `riscv_merge_multi_letter_ext`. -/
def mergeTailAccesses : List Subset → MergeState → List Char
  | [], _ => []
  | s :: rest, st => lookupAccesses st.mergedSubsets s.name ++ mergeTailAccesses rest (st.addMerged s)

/-- `riscv_merge_multi_letter_ext`. -/
def mergeMultiAccesses : (fuel : Nat) → (rest outRest : List Subset) → MergeState → List Char
  | 0, _, _, _ => []
  | fuel + 1, s :: rest, out :: outRest, st =>
    compareAccesses s.name out.name ++
      match riscvCompareSubsets s.name out.name with
      | .lt =>
        lookupAccesses st.mergedSubsets s.name ++ mergeMultiAccesses fuel rest (out :: outRest) (st.addMerged s)
      | .gt =>
        lookupAccesses st.mergedSubsets out.name ++ mergeMultiAccesses fuel (s :: rest) outRest (st.addMerged out)
      | .eq => lookupAccesses st.mergedSubsets out.name ++ mergeMultiAccesses fuel rest outRest (st.mergeBoth s out)
  | _ + 1, rest, [], st => mergeTailAccesses rest st
  | _ + 1, [], outRest, st => mergeTailAccesses outRest st

/-- The merge once both strings are parsed. -/
def mergeParsedAccesses (inArch outArch : List Char) (xlenIn xlenOut : Nat) (st : MergeState) : List Char :=
  if xlenOut ≠ xlenIn then []
  else
    mergeStdAccesses inArch outArch st ++
      match riscvMergeStdExt inArch outArch st with
      | .error _ => []
      | .ok st =>
        mergeMultiAccesses (st.inSubsets.multi.length + st.outSubsets.multi.length + 1) st.inSubsets.multi
          st.outSubsets.multi st

/-- `riscv_merge_arch_attr_info`. -/
def mergeArchAccesses (inArch outArch : List Char) (st : MergeState) : List Char :=
  let parsedIn := riscvParseSubset riscvRpsLd (some inArch) { list := st.inSubsets }
  let parsedOut := riscvParseSubset riscvRpsLd (some outArch) { list := st.outSubsets }
  parseAccesses riscvRpsLd (some inArch) { list := st.inSubsets } ++
    if parsedIn.1 = false then []
    else
      parseAccesses riscvRpsLd (some outArch) { list := st.outSubsets } ++
        if parsedOut.1 = false then []
        else
          mergeParsedAccesses inArch outArch parsedIn.2.xlen parsedOut.2.xlen
            ⟨parsedIn.2.list, parsedOut.2.list, { st.mergedSubsets with nodes := [], tail := none }⟩

/-! ## Characters before the start -/

/-- The search backwards of `stripVersion`, over the reversed string: whether it reads the character before the
start.  `bounded` is whether the loop ends at the start by itself. -/
def stripReadsBefore (bounded : Bool) : (findAny findMinor : Bool) → List Char → Bool
  | _, _, [] => !bounded
  | any, minor, c :: q =>
    if isDigit c then stripReadsBefore bounded true minor q
    else if any ∧ minor = false ∧ c = 'p' then
      if q = [] then true
      else if q.head?.any isDigit then stripReadsBefore bounded any true q
      else false
    else false

/-- `*(q - 1) == 'p' && ISDIGIT (*(q - 2))`, where the name ends at `q`. -/
def checkReadsBefore (name : Name) : Bool := name = [] || name = ['p']

/-- The loop of `riscv_parse_extensions`. -/
def extensionsReadBefore (check : Bool) (arch : List Char) : (fuel : Nat) → List Char → Bool
  | 0, _ => false
  | _ + 1, [] => false
  | fuel + 1, c :: p =>
    if c = '_' then extensionsReadBefore check arch fuel p
    else
      (riscvGetPrefixClass (c :: p) ≠ .single &&
        (stripReadsBefore false false false ((c :: p).takeWhile (· ≠ '_')).reverse ||
          checkReadsBefore (strippedName (c :: p)))) ||
        match nextToken check arch (c :: p) with
        | .error _ => false
        | .ok (_, rest) =>
          if riscvGetPrefixClass (c :: p) ≠ .single ∧ rest.head?.any (· ≠ '_') then false
          else extensionsReadBefore check arch fuel rest

/-- `riscv_parse_subset`. -/
def parseReadsBefore (rps : Rps) (arch : Option (List Char)) : Bool :=
  match arch with
  | none => false
  | some arch =>
    if arch.any isUpper then false
    else
      match archXlen arch with
      | none => false
      | some (_, p) =>
        if p.head? = some 'e' ∨ p.head? = some 'i' ∨ p.head? = some 'g' then
          extensionsReadBefore rps.checkUnknownPrefixedExt arch p.length p
        else false

/-- The part of the loop of `riscv_update_subset` that reads one extension. -/
def nextUpdateReadsBefore (p : List Char) : Bool :=
  let subset := p.takeWhile (· ≠ ',')
  stripReadsBefore true false false subset.reverse || (1 < subset.length && checkReadsBefore (updateName p))

/-- The loop of `riscv_update_subset`. -/
def updateLoopReadsBefore (rps : Rps) (str : List Char) : (fuel : Nat) → List Char → Bool
  | 0, _ => false
  | fuel + 1, p =>
    let signed : Option (Bool × List Char) :=
      match p with
      | '+' :: q => some (false, q)
      | '-' :: q => some (true, q)
      | _ => none
    match signed with
    | none => parseReadsBefore rps (some p)
    | some (_, q) =>
      nextUpdateReadsBefore q ||
        match nextUpdate rps.checkUnknownPrefixedExt str q with
        | .error _ => false
        | .ok (_, rest) =>
          match rest with
          | ',' :: rest => updateLoopReadsBefore rps str fuel rest
          | _ => false

/-- `riscv_update_subset`. -/
def updateReadsBefore (rps : Rps) (str : List Char) : Bool := updateLoopReadsBefore rps str (str.length + 1) str

/-! ## When everything stays inside -/

/-- The z extensions among some names. -/
def zNames (names : List Name) : List Name := names.filter fun n => riscvGetPrefixClass n = .z

/-- All z extensions have a letter behind the z, or there are not two of them. -/
def FewOrGood (zs : List Name) : Prop := (∀ n ∈ zs, SecondInTable n) ∨ zs.length ≤ 1

/-- The parse does not stop at a character that is no lower-case letter, and all z extensions that are stored have
such a letter behind the z; one may be without it if the parse fails before another is looked for. -/
def ParseInRange (rps : Rps) (arch : Option (List Char)) (l : SubsetList) : Prop :=
  match arch with
  | none => ∀ n ∈ zNames (l.nodes.map (·.name)), SecondInTable n
  | some arch =>
    arch.any isUpper = false → ∀ xlen p, archXlen arch = some (xlen, p) →
      (p.head? = some 'e' ∨ p.head? = some 'i' ∨ p.head? = some 'g') →
      let scan := scanExtensions rps.checkUnknownPrefixedExt arch p.length p
      let zs := zNames (l.nodes.map (·.name)) ++ zNames ((tokenEntries rps scan.1).map (·.name))
      (∀ text c, scan.2 = some (.unknownStandard text c) → InTable c) ∧
        ((∀ n ∈ zs, SecondInTable n) ∨ (scan.2 ≠ none ∧ zs.length ≤ 1))

/-- No extension that is added or removed is a single character other than a lower-case letter, and none that is
longer in the text has the name p; and the same of an ISA string that takes the place of the list. -/
def UpdateInRange (rps : Rps) (str : List Char) : (fuel : Nat) → List Char → Prop
  | 0, _ => True
  | fuel + 1, p =>
    let signed : Option (Bool × List Char) :=
      match p with
      | '+' :: q => some (false, q)
      | '-' :: q => some (true, q)
      | _ => none
    match signed with
    | none => ParseInRange rps (some p) {}
    | some (_, q) =>
      ((updateName q).length = 1 → InTable (charAt (updateName q))) ∧
        ¬(1 < (q.takeWhile (· ≠ ',')).length ∧ updateName q = ['p']) ∧
        match nextUpdate rps.checkUnknownPrefixedExt str q with
        | .error _ => True
        | .ok (_, rest) =>
          match rest with
          | ',' :: rest => UpdateInRange rps str fuel rest
          | _ => True

end RiscvBinutils.Isa
