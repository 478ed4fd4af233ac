/-
The parser of ISA strings (bfd/elfxx-riscv.c, `riscv_parse_subset`, `riscv_update_subset` and what they call).
`error_handler` is a list of the errors reported so far.
-/
import RiscvBinutils.Isa.Tables

namespace RiscvBinutils.Isa

/-- What `error_handler` is called with. -/
inductive ParseError
  /-- "x ISA extension `%s' must be set with the versions". -/
  | xVersion (subset : Name)
  /-- "cannot find default versions of the ISA extension `%s'". -/
  | defaultVersion (subset : Name)
  /-- "%s: first ISA extension must be `e', `i' or `g'". -/
  | firstExtension (arch : List Char)
  /-- "%s: unknown standard ISA extension or prefix class `%c'". -/
  | unknownStandard (arch : List Char) (letter : Char)
  /-- "%s: invalid prefixed ISA extension `%s' ends with <number>p". -/
  | prefixedNumberP (arch : List Char) (subset : Name)
  /-- "%s: unknown prefixed ISA extension `%s'". -/
  | unknownPrefixed (arch : List Char) (subset : Name)
  /-- "%s: prefixed ISA extension must separate with _". -/
  | separate (arch : List Char)
  /-- "rv%de does not support the `h' extension". -/
  | conflictEH (xlen : Nat)
  /-- "rv%d does not support the `q' extension". -/
  | conflictQ (xlen : Nat)
  /-- "rv%d does not support the `zcf' extension". -/
  | conflictZcf (xlen : Nat)
  /-- "`zfinx' is conflict with the `f/d/q/zfh/zfhmin' extension". -/
  | conflictZfinx
  /-- "`xtheadvector' is conflict with the `v' extension". -/
  | conflictXtheadvector
  /-- "zvl*b extensions need to enable either `v' or `zve' extension". -/
  | conflictZvl
  /-- "%s: ISA string cannot contain uppercase letters". -/
  | uppercase (arch : List Char)
  /-- "%s: ISA string must begin with rv32 or rv64". -/
  | beginRv (arch : List Char)
  /-- "invalid ISA extension ends with <number>p in .option arch `%s'". -/
  | optionNumberP (str : List Char)
  /-- "unknown ISA extension `%s' in .option arch `%s'". -/
  | optionUnknown (subset : Name) (str : List Char)
  /-- "cannot + or - base extension `%s' in .option arch `%s'". -/
  | optionBase (subset : Name) (str : List Char)
  deriving DecidableEq, Repr

/-- The fixed part of `riscv_parse_subset_t`. -/
structure Rps where
  isaSpec : Option IsaSpecClass
  checkUnknownPrefixedExt : Bool
  deriving DecidableEq, Repr

/-- What parsing changes: the list, `*rps->xlen` and the errors, oldest first. -/
structure ParseState where
  list : SubsetList := {}
  xlen : Nat := 0
  errors : List ParseError := []
  deriving DecidableEq, Repr

def ParseState.report (st : ParseState) (e : ParseError) : ParseState := { st with errors := st.errors ++ [e] }

/-! ## Adding an extension -/

/-- The version to record: the default one if the one given is not known. -/
def resolveVersion (isaSpec : Option IsaSpecClass) (subset : Name) (major minor : Int) : Int × Int :=
  if major = riscvUnknownVersion ∨ minor = riscvUnknownVersion then
    (riscvGetDefaultExtVersion isaSpec subset).getD (major, minor)
  else (major, minor)

/-- `riscv_parse_add_subset`. -/
def riscvParseAddSubset (rps : Rps) (st : ParseState) (subset : Name) (major minor : Int) (implicit : Bool) :
    ParseState :=
  let v := resolveVersion rps.isaSpec subset major minor
  if implicit = false ∧ (v.1 = riscvUnknownVersion ∨ v.2 = riscvUnknownVersion) then
    if subset.head? = some 'x' then st.report (.xVersion subset)
    -- old ISA specifications have no zicsr and zifencei of their own
    else if subset ≠ "zicsr".toList ∧ subset ≠ "zifencei".toList then st.report (.defaultVersion subset)
    else st
  else { st with list := riscvAddSubset st.list subset v.1 v.2 }

/-! ## Versions -/

/-- `ISDIGIT`. -/
def isDigit (c : Char) : Bool := '0'.toNat ≤ c.toNat ∧ c.toNat ≤ '9'.toNat

/-- What an `int` holds after an assignment. -/
def toInt (v : Int) : Int := v.bmod 0x100000000

/-- `version * 10 + (*p - '0')`. -/
def nextSum (version : Int) (c : Char) : Int := version * 10 + (c.toNat - '0'.toNat : Nat)

/-- The loop of `riscv_parsing_subset_version`: `major_p`, `version`, `*major_version` and the rest.  The numbers go
through an `int` that nothing bounds. -/
def versionLoop : (majorP : Bool) → (version major : Int) → List Char → Bool × Int × Int × List Char
  | majorP, version, major, [] => (majorP, version, major, [])
  | majorP, version, major, c :: p =>
    if c = 'p' then
      -- might be the beginning of the `p` extension
      if p.head?.any isDigit then versionLoop false 0 version p else (majorP, version, major, c :: p)
    else if isDigit c then versionLoop majorP (toInt (nextSum version c)) major p
    else (majorP, version, major, c :: p)

/-- `riscv_parsing_subset_version`: the two versions and the rest of the string. -/
def riscvParsingSubsetVersion (p : List Char) : Int × Int × List Char :=
  let r := versionLoop true 0 0 p
  let major := if r.1 then r.2.1 else r.2.2.1
  let minor := if r.1 then 0 else r.2.1
  if major = 0 ∧ minor = 0 then (riscvUnknownVersion, riscvUnknownVersion, r.2.2.2)
  else (major, minor, r.2.2.2)

/-- The search backwards for the first letter that is not `<major>p<minor>`, over the reversed string. -/
def stripVersion : (findAny findMinor : Bool) → List Char → List Char
  | _, _, [] => []
  | any, minor, c :: q =>
    if isDigit c then stripVersion true minor q
    else if any ∧ minor = false ∧ c = 'p' ∧ q.head?.any isDigit then stripVersion any true q
    else c :: q

/-- The name of a prefixed extension, which reaches to the next underscore with its version. -/
def strippedName (p : List Char) : Name := (stripVersion false false (p.takeWhile (· ≠ '_')).reverse).reverse

/-- The name ends with `<number>p`. -/
def endsWithNumberP (name : Name) : Bool :=
  match name.reverse with
  | 'p' :: d :: _ => isDigit d
  | _ => false

/-! ## Extensions -/

/-- An extension as it stands in the string. -/
structure Token where
  name : Name
  major : Int
  minor : Int
  deriving DecidableEq, Repr

/-- The part of the loop of `riscv_parse_extensions` that reads one extension: it and the rest of the
string. -/
def nextToken (check : Bool) (arch p : List Char) : Except ParseError (Token × List Char) :=
  match riscvGetPrefixClass p with
  | .single =>
    match p with
    | [] => .error (.unknownStandard arch '\x00')
    | c :: q =>
      if riscvExtOrder c = 0 then .error (.unknownStandard arch c)
      else
        let v := riscvParsingSubsetVersion q
        .ok (⟨[c], v.1, v.2.1⟩, v.2.2)
  | _ =>
    let name := strippedName p
    if endsWithNumberP name then .error (.prefixedNumberP arch name)
    else
      let v := riscvParsingSubsetVersion (p.drop name.length)
      if check ∧ riscvRecognizedPrefixedExt name = false then .error (.unknownPrefixed arch name)
      else .ok (⟨name, v.1, v.2.1⟩, v.2.2)

/-- The loop of `riscv_parse_extensions` without the list: the extensions in the order of the string, and
the error that ends it.  Every round reads a character, so the length of the string suffices as `fuel`. -/
def scanExtensions (check : Bool) (arch : List Char) : (fuel : Nat) → List Char → List Token × Option ParseError
  | 0, _ => ([], none)
  | _ + 1, [] => ([], none)
  | fuel + 1, c :: p =>
    if c = '_' then scanExtensions check arch fuel p
    else
      match nextToken check arch (c :: p) with
      | .error e => ([], some e)
      | .ok (t, rest) =>
        if riscvGetPrefixClass (c :: p) ≠ .single ∧ rest.head?.any (· ≠ '_') then ([t], some (.separate arch))
        else
          let r := scanExtensions check arch fuel rest
          (t :: r.1, r.2)

/-- What the loop does with an extension; g is added as an implicit one. -/
def addToken (rps : Rps) (st : ParseState) (t : Token) : ParseState :=
  if t.name = ['g'] then riscvParseAddSubset rps st t.name riscvUnknownVersion riscvUnknownVersion true
  else riscvParseAddSubset rps st t.name t.major t.minor false

/-- `riscv_parse_extensions`; false for a null pointer. -/
def riscvParseExtensions (rps : Rps) (arch p : List Char) (st : ParseState) : Bool × ParseState :=
  if p.head? = some 'e' ∨ p.head? = some 'i' ∨ p.head? = some 'g' then
    let scan := scanExtensions rps.checkUnknownPrefixedExt arch p.length p
    let st := scan.1.foldl (addToken rps) st
    match scan.2 with
    | none => (true, st)
    | some e => (false, st.report e)
  else (false, st.report (.firstExtension arch))

/-! ## Implied extensions -/

/-- The condition of the inner loop. -/
def ImplicitSubset.fires (l : SubsetList) (r : ImplicitSubset) : Bool :=
  match l.find r.subsetName with
  | some s => l.supports r.implicitName = false ∧ r.check.holds s
  | none => false

/-- The loop of `riscv_parse_add_implicit_subsets`, from the top of the table after every addition; `none` if
`fuel` additions do not end it. -/
def implicitLoop (rps : Rps) (rows : List ImplicitSubset) : (fuel : Nat) → ParseState → Option ParseState
  | 0, _ => none
  | fuel + 1, st =>
    match rows.find? (·.fires st.list) with
    | none => some st
    | some r =>
      implicitLoop rps rows fuel
        (riscvParseAddSubset rps st r.implicitName riscvUnknownVersion riscvUnknownVersion true)

/-- `riscv_parse_add_implicit_subsets`, for any table. -/
def addImplicitSubsets (rps : Rps) (rows : List ImplicitSubset) (st : ParseState) : ParseState :=
  (implicitLoop rps rows (rows.length + 1) st).getD st

/-- `riscv_parse_add_implicit_subsets`. -/
def riscvParseAddImplicitSubsets (rps : Rps) (st : ParseState) : ParseState :=
  addImplicitSubsets rps riscvImplicitSubsets st

/-! ## Conflicts -/

/-- Report the error if the condition holds. -/
def ParseState.reportIf (st : ParseState) (conflict : Bool) (e : ParseError) : ParseState :=
  if conflict then st.report e else st

/-- The `q` extension before 2.2 on a narrow base. -/
def conflictQ (l : SubsetList) (xlen : Nat) : Bool :=
  (l.find ['q']).any fun s => (s.major < 2 ∨ (s.major = 2 ∧ s.minor < 2)) ∧ xlen < 64

/-- A `zvl*b` extension without a `zve*` one. -/
def conflictZvl (l : SubsetList) : Bool :=
  l.nodes.any ("zvl".toList.isPrefixOf ·.name) ∧ l.nodes.any ("zve".toList.isPrefixOf ·.name) = false

/-- The conflicts, each with its error. -/
def conflicts (l : SubsetList) (xlen : Nat) : List (Bool × ParseError) :=
  [(l.supports ['e'] && l.supports ['h'], .conflictEH xlen),
    (conflictQ l xlen, .conflictQ xlen),
    (l.supports "zcf".toList && decide (32 < xlen), .conflictZcf xlen),
    (l.supports "zfinx".toList && l.supports ['f'], .conflictZfinx),
    (l.supports "xtheadvector".toList && l.supports ['v'], .conflictXtheadvector),
    (conflictZvl l, .conflictZvl)]

/-- `riscv_parse_check_conflicts`. -/
def riscvParseCheckConflicts (st : ParseState) : Bool × ParseState :=
  let found := conflicts st.list st.xlen
  (!found.any (·.1), found.foldl (fun st c => st.reportIf c.1 c.2) st)

/-! ## ISA strings -/

/-- `riscv_set_default_arch`. -/
def riscvSetDefaultArch (rps : Rps) (st : ParseState) : ParseState :=
  (riscvAllSupportedExt.filter (·.defaultEnable)).foldl (fun st e =>
    riscvParseAddSubset rps st e.name riscvUnknownVersion riscvUnknownVersion (e.name = ['g'])) st

/-- `*rps->xlen` and the extensions of an ISA string. -/
def archXlen (arch : List Char) : Option (Nat × List Char) :=
  if "rv32".toList.isPrefixOf arch then some (32, arch.drop 4)
  else if "rv64".toList.isPrefixOf arch then some (64, arch.drop 4)
  else none

/-- `riscv_parse_subset`; `none` for a null pointer. -/
def riscvParseSubset (rps : Rps) (arch : Option (List Char)) (st : ParseState) : Bool × ParseState :=
  match arch with
  | none => riscvParseCheckConflicts (riscvParseAddImplicitSubsets rps (riscvSetDefaultArch rps st))
  | some arch =>
    if arch.any isUpper then (false, st.report (.uppercase arch))
    else
      match archXlen arch with
      | none => (false, if arch = [] then st else st.report (.beginRv arch))
      | some (xlen, p) =>
        match riscvParseExtensions rps arch p { st with xlen } with
        | (false, st) => (false, st)
        | (true, st) => riscvParseCheckConflicts (riscvParseAddImplicitSubsets rps st)

/-! ## `.option arch` -/

/-- The name of an extension that reaches to the next comma with its version; the position is moved on by one
even if no letter has stopped the search. -/
def updateName (p : List Char) : Name :=
  let subset := p.takeWhile (· ≠ ',')
  let stripped := (stripVersion false false subset.reverse).length
  p.take (if stripped = 0 ∧ subset ≠ [] then 1 else stripped)

/-- The part of the loop of `riscv_update_subset` that reads one extension, after its sign. -/
def nextUpdate (check : Bool) (str p : List Char) : Except ParseError (Token × List Char) :=
  let name := updateName p
  if 1 < (p.takeWhile (· ≠ ',')).length ∧ endsWithNumberP name then .error (.optionNumberP str)
  else
    let v := riscvParsingSubsetVersion (p.drop name.length)
    if name.length = 0 ∨ (name.length = 1 ∧ headOrder name = 0)
        ∨ (1 < name.length ∧ check ∧ riscvRecognizedPrefixedExt name = false) then
      .error (.optionUnknown name str)
    else if name = ['i'] ∨ name = ['e'] ∨ name = ['g'] then .error (.optionBase name str)
    else .ok (⟨name, v.1, v.2.1⟩, v.2.2)

/-- The loop of `riscv_update_subset`; every round reads a character. -/
def updateLoop (rps : Rps) (str : List Char) : (fuel : Nat) → List Char → ParseState → Bool × ParseState
  | 0, _, st => (false, st)
  | fuel + 1, p, st =>
    let signed : Option (Bool × List Char) :=
      match p with
      | '+' :: q => some (false, q)
      | '-' :: q => some (true, q)
      | _ => none
    match signed with
    | none => riscvParseSubset rps (some p) { st with list := riscvReleaseSubsetList st.list }
    | some (removed, q) =>
      match nextUpdate rps.checkUnknownPrefixedExt str q with
      | .error e => (false, st.report e)
      | .ok (t, rest) =>
        let st :=
          if removed then { st with list := riscvRemoveSubset st.list t.name }
          else riscvParseAddSubset rps st t.name t.major t.minor true
        match rest with
        | ',' :: rest => updateLoop rps str fuel rest st
        | _ => riscvParseCheckConflicts (riscvParseAddImplicitSubsets rps st)

/-- `riscv_update_subset`. -/
def riscvUpdateSubset (rps : Rps) (str : List Char) (st : ParseState) : Bool × ParseState :=
  updateLoop rps str (str.length + 1) str st

end RiscvBinutils.Isa
