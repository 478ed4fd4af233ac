/-
The operands of an instruction (gas/config/tc-riscv.c, `riscv_ip`): every letter of the operand string of a row
reads its part of the line and writes its part of the word, and the first row that takes the whole line is used.
What reads names and expressions is left open.
-/
import RiscvBinutils.Gas.Expr
import RiscvBinutils.Gas.Fixup
import RiscvBinutils.Gas.LoadConst
import RiscvBinutils.Opcode.Length
import RiscvBinutils.Opcode.Operand
import RiscvBinutils.Opcode.Row

namespace RiscvBinutils.Gas.Ip

open RiscvBinutils.Base RiscvBinutils.Opcode RiscvBinutils.Bfd

/-! ## Letters -/

/-- The letters of an operand string, under the characters that spell them; `cc` is "Cc" and `cV` is "CV". -/
inductive Letter
  | comma | bracket (c : Char)
  | cs | cw | ct | cx | cU | cV | cc | cz | cgt | c5 | c6 | c8 | cj | ck | cl | cm | cn | co | cK | cL | cM | cN
  | cu | cv | cp | ca | cS | cD | cT | cF6 | cF4 | cF3 | cF2
  | vd | ve | vf | vs | vt | vu | vv | v0 | vb | vc | vi | vj | vk | vl | vm | vM | vT
  | lt | gt | z | Z | E | m | P | Q | d | s | t | r | D | S | T | U | R | I | A | B | j | q | o | one | zero | p | u
  | a | c | O4 | O2 | F7 | F3 | F2 | y | Y
  | wif | wfv | wch | wcb | wcf
  | xtVc | xtl (literal : List Char) | xts (n s : Nat) | xtu (n s : Nat) | xc2 | xc3 | xsd | xst | xsO2 | xsO1
  /-- "internal: unknown argument type". -/
  | unknown
  deriving DecidableEq, Repr

/-- A letter behind `C`. -/
def rvcLetter : Char → Letter
  | 's' => .cs | 'w' => .cw | 't' => .ct | 'x' => .cx | 'U' => .cU | 'V' => .cV | 'c' => .cc | 'z' => .cz
  | '>' => .cgt | '5' => .c5 | '6' => .c6 | '8' => .c8 | 'j' => .cj | 'k' => .ck | 'l' => .cl | 'm' => .cm
  | 'n' => .cn | 'o' => .co | 'K' => .cK | 'L' => .cL | 'M' => .cM | 'N' => .cN | 'u' => .cu | 'v' => .cv
  | 'p' => .cp | 'a' => .ca | 'S' => .cS | 'D' => .cD | 'T' => .cT
  | _ => .unknown

/-- A letter behind `CF`. -/
def rvcFunctLetter : Char → Letter
  | '6' => .cF6 | '4' => .cF4 | '3' => .cF3 | '2' => .cF2
  | _ => .unknown

/-- A letter behind `V`. -/
def vectorLetter : Char → Letter
  | 'd' => .vd | 'e' => .ve | 'f' => .vf | 's' => .vs | 't' => .vt | 'u' => .vu | 'v' => .vv | '0' => .v0
  | 'b' => .vb | 'c' => .vc | 'i' => .vi | 'j' => .vj | 'k' => .vk | 'l' => .vl | 'm' => .vm | 'M' => .vM
  | 'T' => .vT
  | _ => .unknown

/-- A letter that stands alone. -/
def plainLetter : Char → Letter
  | ',' => .comma | '(' => .bracket '(' | ')' => .bracket ')' | '[' => .bracket '[' | ']' => .bracket ']'
  | '<' => .lt | '>' => .gt | 'z' => .z | 'Z' => .Z | 'E' => .E | 'm' => .m | 'P' => .P | 'Q' => .Q
  | 'd' => .d | 's' => .s | 't' => .t | 'r' => .r | 'D' => .D | 'S' => .S | 'T' => .T | 'U' => .U | 'R' => .R
  | 'I' => .I | 'A' => .A | 'B' => .B | 'j' => .j | 'q' => .q | 'o' => .o | '1' => .one | '0' => .zero
  | 'p' => .p | 'u' => .u | 'a' => .a | 'c' => .c | 'y' => .y | 'Y' => .Y
  | _ => .unknown

/-- `strtol` for the numbers in an operand string. -/
def strtol (text : List Char) : Nat × List Char :=
  (ofDigits 10 ((text.takeWhile Char.isDigit).map fun c => c.toNat - '0'.toNat), text.dropWhile Char.isDigit)

/-- The end of `parse_imm`: the width and the place of the immediate. -/
def parseImm (letter : Nat → Nat → Letter) (text : List Char) : Letter × List Char :=
  match strtol text with
  | (n, '@' :: rest) => (letter n (strtol rest).1, (strtol rest).2)
  | (_, rest) => (.unknown, rest)

/-- The letter at `oparg`, and what follows it. -/
def nextLetter : List Char → Option (Letter × List Char)
  | [] => none
  | 'C' :: 'F' :: ch :: rest => some (rvcFunctLetter ch, rest)
  | 'C' :: ch :: rest => some (rvcLetter ch, rest)
  | 'V' :: ch :: rest => some (vectorLetter ch, rest)
  | 'O' :: '4' :: rest => some (.O4, rest)
  | 'O' :: '2' :: rest => some (.O2, rest)
  | 'F' :: '7' :: rest => some (.F7, rest)
  | 'F' :: '3' :: rest => some (.F3, rest)
  | 'F' :: '2' :: rest => some (.F2, rest)
  | 'W' :: 'i' :: 'f' :: rest => some (.wif, rest)
  | 'W' :: 'f' :: 'v' :: rest => some (.wfv, rest)
  | 'W' :: 'c' :: 'h' :: rest => some (.wch, rest)
  | 'W' :: 'c' :: 'b' :: rest => some (.wcb, rest)
  | 'W' :: 'c' :: 'f' :: rest => some (.wcf, rest)
  | 'X' :: 't' :: 'V' :: 'c' :: rest => some (.xtVc, rest)
  | 'X' :: 't' :: 'l' :: rest => some (.xtl (rest.takeWhile (· ≠ ',')), rest.dropWhile (· ≠ ','))
  | 'X' :: 't' :: 's' :: rest => some (parseImm .xts rest)
  | 'X' :: 't' :: 'u' :: rest => some (parseImm .xtu rest)
  | 'X' :: 'c' :: '2' :: rest => some (.xc2, rest)
  | 'X' :: 'c' :: '3' :: rest => some (.xc3, rest)
  | 'X' :: 's' :: 'd' :: rest => some (.xsd, rest)
  | 'X' :: 's' :: 't' :: rest => some (.xst, rest)
  | 'X' :: 's' :: 'O' :: '2' :: rest => some (.xsO2, rest)
  | 'X' :: 's' :: 'O' :: '1' :: rest => some (.xsO1, rest)
  | ch :: rest => some (plainLetter ch, rest)

/-- The letters of an operand string; every letter is at least one character. -/
def lettersFrom : (fuel : Nat) → List Char → List Letter
  | 0, _ => []
  | fuel + 1, text =>
    match nextLetter text with
    | none => []
    | some (letter, rest) => letter :: lettersFrom fuel rest

def letters (args : String) : List Letter := lettersFrom args.toList.length args.toList

example : letters "d,Xtu2@25(Cs)CF6" =
    [.d, .comma, .xtu 2 25, .bracket '(', .cs, .bracket ')', .cF6] := by decide

/-! ## Reading the line -/

/-- The classes of registers that are asked for. -/
inductive RegClass
  | gpr | fpr | vecr | vecm | csr
  deriving DecidableEq, Repr

/-- What is reported with `as_bad`. -/
inductive AsBad
  /-- The messages of `expression`. -/
  | expression (message : String)
  /-- "unclosed '('" -/
  | unclosed
  /-- "unsupported large constant" -/
  | largeConstant
  /-- "unknown CSR `%s'" -/
  | unknownCsr
  /-- "instruction %s requires absolute expression" -/
  | notAbsolute (name : String)
  /-- "improper shift amount (%llu)" -/
  | shiftAmount (value : Vma)
  /-- "improper CSRxI immediate (%llu)" -/
  | csrxiImmediate (value : Vma)
  /-- "improper CSR address (%llu)" -/
  | csrAddress (value : Vma)
  /-- "Improper bs immediate (%lu)" -/
  | bsImmediate (value : Vma)
  /-- "Improper rnum immediate (%lu)" -/
  | rnumImmediate (value : Vma)
  /-- "lui expression not in range 0..1048575" -/
  | luiRange
  /-- "improper prefetch offset (%ld)" -/
  | prefetchOffset (value : Vma)
  /-- "improper immediate value (%llu)", and with the sign "%lli" -/
  | immediateValue (value : Vma)
  /-- "bad value for vsetvli immediate field, value must be 0..2047", `vsetivli` up to 1023, `th.vsetvli` -/
  | vsetvli (name : String) (highest : Nat)
  /-- "bad value for vector immediate field, value must be %d...%d" -/
  | vectorImmediate (lowest highest : Int)
  /-- "bad value for %s field, value must be 0...%d", with the field named funct7, compressed funct6 and so on -/
  | functField (name : String) (highest : Nat)
  /-- "bad value for opcode field, value must be 0...127 and lower 2 bits must be 0x3", or "0...2" -/
  | opcodeField (highest : Nat)
  /-- "bad value for <bit-%s-%s> field, value must be 0...%d" -/
  | bitField (first last : Nat)
  /-- "unexpected literal (%s)" -/
  | unexpectedLiteral (text : List Char)
  /-- "bad fli constant operand, supported constants must be in decimal or hexadecimal floating-point literal form" -/
  | fliConstant
  deriving DecidableEq, Repr

/-- What a parser of expressions leaves: the expression, `expr_parse_end`, and what it reports. -/
structure ExprText where
  expr : Expr
  rest : List Char
  bad : List AsBad := []
  deriving DecidableEq, Repr

/-- The `unsigned long` of the host. -/
inductive UnsignedLong
  | bits32 | bits64
  deriving DecidableEq, Repr

/-- `(unsigned long) x`. -/
def UnsignedLong.cast : UnsignedLong → Vma → Vma
  | .bits32, x => (x.setWidth 32).setWidth 64
  | .bits64, x => x

/-- What `riscv_ip` finds around it: the settings it looks at, and what reads names and expressions. -/
structure IpEnv where
  xlen : Xlen
  ulong : UnsignedLong
  /-- `riscv_opts.rvc`. -/
  rvc : Bool
  riscvMultiSubsetSupports : InsnClass → Bool
  riscvMultiSubsetSupportsExt : InsnClass → Option String
  riscvSubsetSupports : String → Bool
  regLookup : RegClass → List Char → Option (Nat × List Char)
  opcodeNameLookup : List Char → Option (Nat × List Char)
  /-- `strtof` and `flt_lookup` in `riscv_fli_numval`. -/
  fltLookup : List Char → Option (Nat × List Char)
  /-- `expression`, under `probing_insn_operands`. -/
  expression : Bool → List Char → ExprText
  /-- The value with which `md_apply_fix` is called for an expression that is no constant. -/
  fixValue : Expr → Vma

/-- `strspn (asarg, " \t")`. -/
def skipBlanks : List Char → List Char
  | ' ' :: text => skipBlanks text
  | '\t' :: text => skipBlanks text
  | text => text

def riscvRm : List (Option String) :=
  [some "rne", some "rtz", some "rdn", some "rup", some "rmm", none, none, some "dyn"]

def riscvPredSucc : List (Option String) :=
  [none, some "w", some "r", some "rw", some "o", some "ow", some "or", some "orw", some "i", some "iw", some "ir",
    some "irw", some "io", some "iow", some "ior", some "iorw"]

def riscvVsew : List (Option String) := [some "e8", some "e16", some "e32", some "e64", none, none, none, none]

def riscvVlmul : List (Option String) :=
  [some "m1", some "m2", some "m4", some "m8", none, some "mf8", some "mf4", some "mf2"]

def riscvVta : List (Option String) := [some "tu", some "ta"]

def riscvVma : List (Option String) := [some "mu", some "ma"]

def riscvThVlen : List (Option String) := [some "m1", some "m2", some "m4", some "m8"]

def riscvThVediv : List (Option String) := [some "d1", some "d2", some "d4", some "d8"]

def riscvFliSymval : List (Option String) :=
  [none, some "min"] ++ List.replicate 28 none ++ [some "inf", some "nan"]

/-- `arg_lookup`: an entry that is the text up to the next comma. -/
def argLookup (array : List (Option String)) (text : List Char) : Option (Nat × List Char) :=
  let word := text.takeWhile (· ≠ ',')
  if word = [] then none
  else (array.findIdx? fun entry => entry.map String.toList = some word).map fun regno =>
    (regno, text.dropWhile (· ≠ ','))

/-- Blanks and opening brackets, with the number of these. -/
def skipOpen : List Char → Nat × List Char
  | '(' :: text => ((skipOpen text).1 + 1, (skipOpen text).2)
  | ' ' :: text => skipOpen text
  | '\t' :: text => skipOpen text
  | text => (0, text)

/-- Match open brackets; those that stay open are counted. -/
def closeBrackets : Nat → List Char → Nat × List Char
  | 0, text => (0, text)
  | depth + 1, ')' :: text => closeBrackets depth text
  | depth + 1, ' ' :: text => closeBrackets (depth + 1) text
  | depth + 1, '\t' :: text => closeBrackets (depth + 1) text
  | depth + 1, text => (depth + 1, text)

/-- `struct percent_op_match`, without the entry that ends it. -/
abbrev PercentOps := List (String × RelocCode)

def percentOpUtype : PercentOps :=
  [("tprel_hi", .tprelHi20), ("pcrel_hi", .pcrelHi20), ("got_pcrel_hi", .gotHi20), ("tls_ie_pcrel_hi", .tlsGotHi20),
    ("tls_gd_pcrel_hi", .tlsGdHi20), ("hi", .hi20)]

def percentOpItype : PercentOps :=
  [("lo", .lo12I), ("tprel_lo", .tprelLo12I), ("pcrel_lo", .pcrelLo12I)]

def percentOpStype : PercentOps :=
  [("lo", .lo12S), ("tprel_lo", .tprelLo12S), ("pcrel_lo", .pcrelLo12S)]

def percentOpRtype : PercentOps := [("tprel_add", .tprelAdd)]

def percentOpNull : PercentOps := []

/-- `parse_relocation`, with `text` at the percent sign. -/
def parseRelocation (text : List Char) : PercentOps → Option (RelocCode × List Char)
  | [] => none
  | (str, reloc) :: ops =>
    let behind := (text.drop (1 + str.length)).dropWhile isSpace
    if ((text.drop 1).take str.length).map Char.toLower = str.toList ∧ behind.head? = some '(' then
      some (reloc, behind)
    else parseRelocation text ops

/-- What `my_getSmallExpression` leaves: its number of relocation operators, and the relocation if it is set. -/
structure SmallText extends ExprText where
  used : Bool
  reloc : Option RelocCode
  deriving DecidableEq, Repr

/-- `ep->X_op = O_illegal`; nobody goes on from here. -/
def SmallText.illegal (text : List Char) (reloc : Option RelocCode) : SmallText :=
  { expr := ⟨.other, 0⟩, rest := text, used := false, reloc }

section Read

variable (env : IpEnv)

/-- `my_getSmallExpression`. -/
def myGetSmallExpression (text : List Char) (percentOp : PercentOps) : SmallText :=
  let (depth, str) := skipOpen text
  if str.head? = some '%' then
    match parseRelocation str percentOp with
    | none => .illegal text none
    | some (reloc, crux) =>
      if (skipOpen crux).2.head? = some '%' then .illegal text (some reloc)
      else
        let read := env.expression false crux
        let (depth, rest) := closeBrackets depth read.rest
        { expr := read.expr, rest, bad := read.bad ++ if 0 < depth then [.unclosed] else [], used := true
          reloc := some reloc }
  else
    let read := env.expression (depth = 0) text
    { read with used := false, reloc := none }

/-- `my_getExpression`. -/
def myGetExpression (text : List Char) : ExprText := env.expression true text

/-- `my_getOpcodeExpression`. -/
def myGetOpcodeExpression (text : List Char) : SmallText :=
  match env.opcodeNameLookup text with
  | some (val, rest) => { expr := ⟨.constant, BitVec.ofNat 64 val⟩, rest, used := false, reloc := none }
  | none => myGetSmallExpression env text percentOpNull

/-- The names before a `vtype`: each of them is looked for once, with the comma behind it. -/
def lookupNames : List (List (Option String) × Nat) → List Char → (Option Vma × List Char)
  | [], text => (none, text)
  | (array, shift) :: arrays, text =>
    match argLookup array text with
    | none => lookupNames arrays text
    | some (value, rest) =>
      let rest := if rest.head? = some ',' then rest.tail else rest
      let (others, end_) := lookupNames arrays rest
      (some ((BitVec.ofNat 64 value <<< shift) ||| others.getD 0), end_)

/-- `my_getVsetvliExpression` and `my_getThVsetvliExpression`. -/
def vtypeExpression (arrays : List (List (Option String) × Nat)) (text : List Char) : ExprText :=
  match lookupNames arrays text with
  | (some value, rest) => { expr := ⟨.constant, value⟩, rest }
  | (none, _) => myGetExpression env text

def myGetVsetvliExpression (text : List Char) : ExprText :=
  vtypeExpression env [(riscvVsew, 3), (riscvVlmul, 0), (riscvVta, 6), (riscvVma, 7)] text

def myGetThVsetvliExpression (text : List Char) : ExprText :=
  vtypeExpression env [(riscvVsew, 2), (riscvThVlen, 0), (riscvThVediv, 5)] text

/-- `riscv_handle_implicit_zero_offset`: a single bracket is left. -/
def implicitZeroOffset (text : List Char) : Bool :=
  text.head? = some '(' ∧ '(' ∉ text.tail

end Read

/-! ## One letter -/

/-- The state of the loop: `asarg`, `ip->insn_opcode`, `*imm_expr`, `*imm_reloc`, which is `none` for
`BFD_RELOC_UNUSED`, `p`, and what was reported. -/
structure IpState where
  asarg : List Char
  insn : Opcode.Insn
  immExpr : Expr := ⟨.other, 0⟩
  immReloc : Option RelocCode := none
  p : PercentOps := percentOpNull
  bad : List AsBad := []
  deriving DecidableEq, Repr

/-- `continue` to the next letter, or `break` to the next row; `fatal` is `as_fatal`. -/
inductive LetterResult
  | next (st : IpState)
  | mismatch (bad : List AsBad)
  | fatal
  deriving DecidableEq, Repr

/-- `imm_expr->X_op = O_absent`. -/
def absent (ex : Expr) : Expr := { ex with op := .other }

section Letters

variable (env : IpEnv) (st : IpState)

/-- The register at `asarg`, which must pass a test. -/
def regLetter (cls : RegClass) (test : Nat → Bool) (write : Nat → Opcode.Insn → Opcode.Insn) : LetterResult :=
  match env.regLookup cls st.asarg with
  | some (regno, rest) =>
    if test regno then .next { st with asarg := rest, insn := write regno st.insn } else .mismatch st.bad
  | none => .mismatch st.bad

/-- `INSERT_OPERAND` of a register number. -/
def insertReg (f : OperandField) (regno : Nat) (insn : Opcode.Insn) : Opcode.Insn :=
  f.insert insn (BitVec.ofNat 64 regno)

/-- The registers of the compressed formats, `x8` to `x15`. -/
def isRvcReg (regno : Nat) : Bool := 8 ≤ regno ∧ regno ≤ 15

def rvcReg (cls : RegClass) (f : OperandField) : LetterResult :=
  regLetter env st cls isRvcReg fun regno insn => insertReg f (regno % 8) insn

/-- A register that was read before. -/
def sameReg (f : OperandField) (first : Nat) : LetterResult :=
  regLetter env st .gpr (fun regno => (f.extract st.insn).toNat + first = regno) fun _ insn => insn

/-- A register of a full format; a blank behind it is skipped. -/
def plainReg (cls : RegClass) (write : Nat → Opcode.Insn → Opcode.Insn) : LetterResult :=
  match env.regLookup cls st.asarg with
  | some (regno, rest) =>
    .next { st with asarg := if rest.head? = some ' ' then rest.tail else rest, insn := write regno st.insn }
  | none => .mismatch st.bad

/-- Where a floating-point register is asked for. -/
def fprClass : RegClass := if env.riscvSubsetSupports "zfinx" then .gpr else .fpr

/-- A word of a table of names. -/
def argLetter (array : List (Option String)) (f : OperandField) : LetterResult :=
  match argLookup array st.asarg with
  | some (regno, rest) => .next { st with asarg := rest, insn := insertReg f regno st.insn }
  | none => .mismatch st.bad

/-- The state after `my_getSmallExpression`. -/
def afterSmall (read : SmallText) : IpState :=
  { st with immExpr := read.expr, immReloc := read.reloc.or st.immReloc, bad := st.bad ++ read.bad }

/-- A constant of a compressed format, up to `rvc_imm_done`. -/
def rvcImm (ok : Vma → Bool) (encode : Vma → Opcode.Insn) : LetterResult :=
  let read := myGetSmallExpression env st.asarg st.p
  let st := afterSmall st read
  if read.used ∨ read.expr.op ≠ .constant ∨ ok read.expr.addNumber = false then .mismatch st.bad
  else .next
    { st with asarg := read.rest, insn := st.insn ||| encode read.expr.addNumber, immExpr := absent st.immExpr }

/-- The offset of a compressed load or store, which may be left out. -/
def rvcOffset (ok : Vma → Bool) (encode : Vma → Opcode.Insn) : LetterResult :=
  if implicitZeroOffset st.asarg then .next { st with immExpr := ⟨.constant, 0⟩ }
  else rvcImm env st ok encode

/-- The fields of `.insn`; a wrong value is reported. -/
def functField (read : SmallText) (f : OperandField) (ok : Vma → Bool) (msg : AsBad) : LetterResult :=
  let st := afterSmall st read
  if read.used ∨ read.expr.op ≠ .constant ∨ ok read.expr.addNumber = false then .mismatch (st.bad ++ [msg])
  else .next
    { st with asarg := read.rest, insn := f.insert st.insn read.expr.addNumber, immExpr := absent st.immExpr }

/-- `check_absolute_expr`: the expression, and what is reported. -/
def checkAbsoluteExpr (op : RiscvOpcodeRow) (ex : Expr) (maybeCsr : Bool) : Expr × List AsBad :=
  (normalizeConstantExpr env.xlen ex,
    if ex.op = .big then [.largeConstant]
    else if maybeCsr ∧ ex.op = .symbol then [.unknownCsr]
    else if ex.op ≠ .constant then [.notAbsolute op.name]
    else [])

/-- The state after an absolute expression is read and checked. -/
def afterAbsolute (op : RiscvOpcodeRow) (read : ExprText) (maybeCsr : Bool) : IpState :=
  let (ex, bad) := checkAbsoluteExpr env op read.expr maybeCsr
  { st with asarg := read.rest, immExpr := ex, bad := st.bad ++ read.bad ++ bad }

/-- An absolute expression; a wrong value is reported, and written all the same. -/
def absolute (op : RiscvOpcodeRow) (read : ExprText) (maybeCsr : Bool) (ok : Vma → Bool) (msg : Vma → AsBad)
    (write : Opcode.Insn → Vma → Opcode.Insn) : LetterResult :=
  let st := afterAbsolute env st op read maybeCsr
  let v := st.immExpr.addNumber
  .next { st with
    insn := write st.insn v, immExpr := absent st.immExpr, bad := st.bad ++ if ok v then [] else [msg v] }

/-- The small immediates of CORE-V; a wrong value leads to the next row. -/
def coreVImm (op : RiscvOpcodeRow) (shift : Nat) : LetterResult :=
  let st := afterAbsolute env st op (myGetExpression env st.asarg) false
  let v := st.immExpr.addNumber
  if v.toInt < 0 ∨ 31 < v.toInt then .mismatch st.bad
  else .next { st with insn := st.insn ||| scatter [⟨0, 5, shift⟩] v }

/-- `ENCODE_UIMM_BIT_FIELD`: after a wrong value the line stays where it is. -/
def uimmBitField (f : OperandField) (first last : Nat) : LetterResult :=
  let read := myGetOpcodeExpression env st.asarg
  let st := afterSmall st read
  let v := read.expr.addNumber
  if read.used ∨ read.expr.op ≠ .constant ∨ v.toInt < 0 ∨ 2 ^ (last - first + 1) ≤ v.toInt then
    .next { st with bad := st.bad ++ [.bitField first last] }
  else .next { st with asarg := read.rest, insn := f.insert st.insn v, immExpr := absent st.immExpr }

/-- From `alu_op` on. -/
def aluOp (ok : Vma → Bool) : LetterResult :=
  let read := myGetSmallExpression env st.asarg st.p
  let st := afterSmall st read
  if read.used then .next { st with asarg := read.rest }
  else
    let ex := normalizeConstantExpr env.xlen read.expr
    if ex.op ≠ .constant ∨ ok ex.addNumber = false ∨ 2048 ≤ ex.addNumber.toInt ∨ ex.addNumber.toInt < -2048 then
      .mismatch st.bad
    else .next { st with asarg := read.rest, immExpr := ex }

/-- From `load_store` on. -/
def loadStore (ok : Vma → Bool) : LetterResult :=
  if implicitZeroOffset st.asarg then .next { st with immExpr := ⟨.constant, 0⟩ } else aluOp env st ok

/-- The upper 20 bits. -/
def upperImm : LetterResult :=
  let read := myGetSmallExpression env st.asarg st.p
  let st := afterSmall st read
  if read.used then .next { st with asarg := read.rest }
  else if read.expr.op ≠ .constant then .mismatch st.bad
  else
    let v := read.expr.addNumber
    .next { st with
      asarg := read.rest, immReloc := some .hi20, immExpr := ⟨.constant, v <<< 12⟩
      bad := st.bad ++ if v.toInt < 0 ∨ 2 ^ 20 ≤ v.toInt then [.luiRange] else [] }

/-- A distance to branch or to jump. -/
def target (reloc : RelocCode) : LetterResult :=
  let read := myGetExpression env st.asarg
  .next { st with asarg := read.rest, immExpr := read.expr, immReloc := some reloc, bad := st.bad ++ read.bad }

/-- What `c.lui` takes: the lowest and the highest values of 20 bits. -/
def rvcLuiOk (v : Vma) : Bool := 0 < v.toInt ∧ v.toInt < 2 ^ 20 ∧ ¬ (32 ≤ v.toInt ∧ v.toInt < 2 ^ 20 - 32)

/-- `VALIDATE_U_IMM`. -/
def validateUImm (v : Vma) (n : Nat) : Bool := env.ulong.cast v < env.ulong.cast (1#64 <<< n)

/-- `VALIDATE_S_IMM`. -/
def validateSImm (v : Vma) (n : Nat) : Bool :=
  v.toInt < (1#64 <<< (n - 1)).toInt ∧ -(1#64 <<< (n - 1)).toInt ≤ v.toInt

/-- A vector mask, or nothing where it is optional. -/
def maskLetter (asarg : List Char) : LetterResult :=
  match env.regLookup .vecm asarg with
  | some (0, rest) => .next { st with asarg := rest, insn := OperandField.vmask.insert st.insn 0 }
  | _ => .mismatch st.bad

/-- `,` and brackets stand as they are. -/
def punctuation (ch : Char) : LetterResult :=
  if st.asarg.head? = some ch then .next { st with asarg := st.asarg.tail } else .mismatch st.bad

/-- The destination of a vector AMO. -/
def amoVd : LetterResult :=
  match env.regLookup .gpr st.asarg with
  | some (0, rest) => .next { st with asarg := rest, insn := OperandField.vwd.insert st.insn 0 }
  | other =>
    -- a register that is not zero is passed by
    let asarg := (other.map Prod.snd).getD st.asarg
    regLetter env { st with asarg } .vecr (fun _ => true) fun regno insn =>
      insertReg .vd regno (OperandField.vwd.insert insn 1)

/-- The source of a vector AMO is its destination, if there is one. -/
def amoVs3 : LetterResult :=
  regLetter env st .vecr
    (fun regno => OperandField.vwd.extract st.insn = 0 ∨ (OperandField.vd.extract st.insn).toNat = regno)
    fun regno insn => if OperandField.vwd.extract insn = 0 then insertReg .vd regno insn else insn

def optionalMask : LetterResult :=
  match st.asarg with
  | [] => .next { st with insn := OperandField.vmask.insert st.insn 1 }
  | ',' :: rest => maskLetter env st rest
  | _ => .mismatch st.bad

/-- A control register by its name or its address. -/
def controlRegister (op : RiscvOpcodeRow) : LetterResult :=
  match env.regLookup .csr st.asarg with
  | some (regno, rest) => .next { st with asarg := rest, insn := insertReg .csr regno st.insn }
  | none => absolute env st op (myGetExpression env st.asarg) true (fun v => env.ulong.cast v ≤ 0xfff) .csrAddress
      OperandField.csr.insert

/-- An offset like that of a store, with five zeros. -/
def prefetchOffset (op : RiscvOpcodeRow) : LetterResult :=
  if implicitZeroOffset st.asarg then .next { st with immExpr := ⟨.constant, 0⟩ }
  else absolute env st op (myGetExpression env st.asarg) false
    (fun v => v &&& 0x1f = 0 ∧ v.toInt < 2048 ∧ -2048 ≤ v.toInt) .prefetchOffset
    fun insn v => insn ||| encodeStypeImm ((v.setWidth 32).setWidth 64 &&& ~~~0x1f)

def fliConstant : LetterResult :=
  match argLookup riscvFliSymval st.asarg <|> env.fltLookup st.asarg with
  | some (regno, rest) => .next { st with asarg := rest, insn := insertReg .rs1 regno st.insn }
  | none => .mismatch (st.bad ++ [.fliConstant])

/-- An expression of a macro, of one of the kinds that are allowed; a symbol asks for a relocation. -/
def macroOperand (kinds : List ExprOp) : LetterResult :=
  let read := myGetExpression env st.asarg
  if read.expr.op ∉ kinds then .mismatch (st.bad ++ read.bad)
  else .next { st with
    asarg := read.rest, immExpr := normalizeConstantExpr env.xlen read.expr
    immReloc := if read.expr.op = .symbol then some .bfd32 else st.immReloc, bad := st.bad ++ read.bad }

/-- The target of a call, which may end with "@plt". -/
def callTarget : LetterResult :=
  let read := myGetExpression env st.asarg
  .next { st with
    asarg := if read.rest = "@plt".toList then [] else read.rest, immExpr := read.expr, immReloc := some .callPlt
    bad := st.bad ++ read.bad }

/-- A literal of the row. -/
def literalLetter (literal : List Char) : LetterResult :=
  .next { st with
    asarg := st.asarg.drop literal.length
    bad := st.bad ++ if literal <+: st.asarg then [] else [.unexpectedLiteral st.asarg] }

end Letters

/-! ## The loop over the letters -/

/-- The cases of `riscv_ip` for the letters; blanks before the operand are skipped already. -/
def ipLetter (env : IpEnv) (op : RiscvOpcodeRow) (st : IpState) : Letter → LetterResult
  -- RVC
  | .cs => rvcReg env st .gpr .crs1s
  | .cw => sameReg env st .crs1s 8
  | .ct => rvcReg env st .gpr .crs2s
  | .cx => sameReg env st .crs2s 8
  | .cU => sameReg env st .rd 0
  | .cV => regLetter env st .gpr (fun _ => true) (insertReg .crs2)
  | .cc => regLetter env st .gpr (fun regno => regno = 2) fun _ insn => insn
  | .cz => regLetter env st .gpr (fun regno => regno = 0) fun _ insn => insn
  | .cgt => rvcImm env st (fun v => env.ulong.cast v < BitVec.ofNat 64 env.xlen.bits) encodeCitypeImm
  | .c5 => rvcImm env st (fun v => 0 ≤ v.toInt ∧ v.toInt < 32 ∧ validCltypeImm v) encodeCltypeImm
  | .c6 => rvcImm env st (fun v => 0 ≤ v.toInt ∧ v.toInt < 64 ∧ validCsstypeImm v) encodeCsstypeImm
  | .c8 => rvcImm env st (fun v => 0 ≤ v.toInt ∧ v.toInt < 256 ∧ validCiwtypeImm v) encodeCiwtypeImm
  | .cj => rvcImm env st (fun v => v ≠ 0 ∧ validCitypeImm v) encodeCitypeImm
  | .ck => rvcOffset env st validCltypeLwImm encodeCltypeLwImm
  | .cl => rvcOffset env st validCltypeLdImm encodeCltypeLdImm
  | .cm => rvcOffset env st validCitypeLwspImm encodeCitypeLwspImm
  | .cn => rvcOffset env st validCitypeLdspImm encodeCitypeLdspImm
  | .co => rvcImm env st validCitypeImm encodeCitypeImm
  | .cK => rvcImm env st (fun v => v ≠ 0 ∧ validCiwtypeAddi4spnImm v) encodeCiwtypeAddi4spnImm
  | .cL => rvcImm env st validCitypeAddi16spImm encodeCitypeAddi16spImm
  | .cM => rvcOffset env st validCsstypeSwspImm encodeCsstypeSwspImm
  | .cN => rvcOffset env st validCsstypeSdspImm encodeCsstypeSdspImm
  | .cu => rvcImm env { st with p := percentOpUtype } rvcLuiOk encodeCitypeImm
  | .cv => rvcImm env st (fun v => v &&& 0xfff = 0 ∧ sext 32 v = v ∧ rvcLuiOk ((v.setWidth 32 >>> 12).setWidth 64))
      fun v => encodeCitypeImm ((v.setWidth 32 >>> 12).setWidth 64)
  | .cp => target env st .bfd12Pcrel
  | .ca => target env st .jmp
  | .cS => rvcReg env st .fpr .crs1s
  | .cD => rvcReg env st .fpr .crs2s
  | .cT => regLetter env st .fpr (fun _ => true) (insertReg .crs2)
  | .cF6 => functField st (myGetSmallExpression env st.asarg st.p) .cfunct6 (fun v => 0 ≤ v.toInt ∧ v.toInt < 64)
      (.functField "compressed funct6" 63)
  | .cF4 => functField st (myGetSmallExpression env st.asarg st.p) .cfunct4 (fun v => 0 ≤ v.toInt ∧ v.toInt < 16)
      (.functField "compressed funct4" 15)
  | .cF3 => functField st (myGetSmallExpression env st.asarg st.p) .cfunct3 (fun v => 0 ≤ v.toInt ∧ v.toInt < 8)
      (.functField "compressed funct3" 7)
  | .cF2 => functField st (myGetSmallExpression env st.asarg st.p) .cfunct2 (fun v => 0 ≤ v.toInt ∧ v.toInt < 4)
      (.functField "compressed funct2" 3)
  -- RVV
  | .vd => regLetter env st .vecr (fun _ => true) (insertReg .vd)
  | .ve => amoVd env st
  | .vf => amoVs3 env st
  | .vs => regLetter env st .vecr (fun _ => true) (insertReg .vs1)
  | .vt => regLetter env st .vecr (fun _ => true) (insertReg .vs2)
  | .vu => regLetter env st .vecr (fun _ => true) fun regno insn => insertReg .vs2 regno (insertReg .vs1 regno insn)
  | .vv => regLetter env st .vecr (fun _ => true) fun regno insn =>
      insertReg .vs2 regno (insertReg .vs1 regno (insertReg .vd regno insn))
  | .v0 => regLetter env st .vecr (fun regno => regno = 0) fun _ insn => insn
  | .vb => absolute env st op (myGetVsetvliExpression env st.asarg) false validRvvVbImm
      (fun _ => .vsetvli "vsetivli" 1023) fun insn v => insn ||| encodeRvvVbImm v
  | .vc => absolute env st op (myGetVsetvliExpression env st.asarg) false validRvvVcImm
      (fun _ => .vsetvli "vsetvli" 2047) fun insn v => insn ||| encodeRvvVcImm v
  | .vi => absolute env st op (myGetExpression env st.asarg) false (fun v => v.toInt ≤ 15 ∧ -16 ≤ v.toInt)
      (fun _ => .vectorImmediate (-16) 15) OperandField.vimm.insert
  | .vj => absolute env st op (myGetExpression env st.asarg) false (fun v => 0 ≤ v.toInt ∧ v.toInt < 32)
      (fun _ => .vectorImmediate 0 31) OperandField.vimm.insert
  | .vk => absolute env st op (myGetExpression env st.asarg) false (fun v => v.toInt ≤ 16 ∧ -15 ≤ v.toInt)
      (fun _ => .vectorImmediate (-15) 16) fun insn v => OperandField.vimm.insert insn (v - 1)
  | .vl => absolute env st op (myGetExpression env st.asarg) false (fun v => 0 ≤ v.toInt ∧ v.toInt < 64)
      (fun _ => .vectorImmediate 0 63) fun insn v => insn ||| encodeRvvViUimm6 v
  | .vm => optionalMask env st
  | .vM => maskLetter env st st.asarg
  | .vT => regLetter env st .vecr (fun regno => regno ≠ 0) (insertReg .vfunct6)
  | .comma => punctuation st ','
  | .bracket ch => punctuation st ch
  -- shifts and control registers
  | .lt => absolute env st op (myGetExpression env st.asarg) false (fun v => env.ulong.cast v ≤ 31) .shiftAmount
      OperandField.shamtw.insert
  | .gt => absolute env st op (myGetExpression env st.asarg) false
      (fun v => env.ulong.cast v < BitVec.ofNat 64 env.xlen.bits) .shiftAmount OperandField.shamt.insert
  | .Z => absolute env st op (myGetExpression env st.asarg) false (fun v => env.ulong.cast v ≤ 31) .csrxiImmediate
      OperandField.rs1.insert
  | .E => controlRegister env st op
  | .m => argLetter st riscvRm .rm
  | .P => argLetter st riscvPredSucc .pred
  | .Q => argLetter st riscvPredSucc .succ
  -- registers
  | .d => plainReg env st .gpr (insertReg .rd)
  | .s => plainReg env st .gpr (insertReg .rs1)
  | .t => plainReg env st .gpr (insertReg .rs2)
  | .r => plainReg env st .gpr (insertReg .rs3)
  | .D => plainReg env st (fprClass env) (insertReg .rd)
  | .S => plainReg env st (fprClass env) (insertReg .rs1)
  | .T => plainReg env st (fprClass env) (insertReg .rs2)
  | .U => plainReg env st (fprClass env) fun regno insn => insertReg .rs2 regno (insertReg .rs1 regno insn)
  | .R => plainReg env st (fprClass env) (insertReg .rs3)
  -- what macros take
  | .I => macroOperand env st [.big, .constant]
  | .A => macroOperand env st [.symbol]
  | .B => macroOperand env st [.symbol, .constant]
  -- offsets and targets
  | .j => aluOp env { st with p := percentOpItype, immReloc := some .lo12I } fun _ => true
  | .q => loadStore env { st with p := percentOpStype, immReloc := some .lo12S } fun _ => true
  | .o => loadStore env { st with p := percentOpItype, immReloc := some .lo12I } fun _ => true
  | .one => aluOp env { st with p := percentOpRtype } fun _ => false
  | .zero => loadStore env st fun v => v = 0
  | .p => target env st .bfd12Pcrel
  | .u => upperImm env { st with p := percentOpUtype }
  | .a => target env st .jmp
  | .c => callTarget env st
  -- `.insn`
  | .O4 => functField st (myGetOpcodeExpression env st.asarg) .op
      (fun v => 0 ≤ v.toInt ∧ v.toInt < 128 ∧ v &&& 0x3 = 3) (.opcodeField 127)
  | .O2 => functField st (myGetOpcodeExpression env st.asarg) .op2 (fun v => 0 ≤ v.toInt ∧ v.toInt < 3) (.opcodeField 2)
  | .F7 => functField st (myGetSmallExpression env st.asarg st.p) .funct7 (fun v => 0 ≤ v.toInt ∧ v.toInt < 128)
      (.functField "funct7" 127)
  | .F3 => functField st (myGetSmallExpression env st.asarg st.p) .funct3 (fun v => 0 ≤ v.toInt ∧ v.toInt < 8)
      (.functField "funct3" 7)
  | .F2 => functField st (myGetSmallExpression env st.asarg st.p) .funct2 (fun v => 0 ≤ v.toInt ∧ v.toInt < 4)
      (.functField "funct2" 3)
  | .y => absolute env st op (myGetExpression env st.asarg) false (fun v => env.ulong.cast v ≤ 3) .bsImmediate
      OperandField.bs.insert
  | .Y => absolute env st op (myGetExpression env st.asarg) false (fun v => env.ulong.cast v ≤ 10) .rnumImmediate
      OperandField.rnum.insert
  | .z => rvcImm env st (fun v => v = 0) fun _ => 0
  -- standard extensions
  | .wif => prefetchOffset env st op
  | .wfv => fliConstant env st
  | .wch => rvcOffset env st validZcbHalfwordUimm encodeZcbHalfwordUimm
  | .wcb => rvcOffset env st validZcbByteUimm encodeZcbByteUimm
  | .wcf => rvcImm env st (fun v => v = 255) fun _ => 0
  -- vendors
  | .xtVc => absolute env st op (myGetThVsetvliExpression env st.asarg) false validRvvVcImm
      (fun _ => .vsetvli "th.vsetvli" 2047) fun insn v => insn ||| encodeRvvVcImm v
  | .xtl literal => literalLetter st literal
  | .xts n s => absolute env st op (myGetExpression env st.asarg) false (fun v => validateSImm v n) .immediateValue
      (insertImm n s)
  | .xtu n s => absolute env st op (myGetExpression env st.asarg) false (fun v => validateUImm env v n) .immediateValue
      (insertImm n s)
  | .xc2 => coreVImm env st op 20
  | .xc3 => coreVImm env st op 25
  | .xsd => uimmBitField env st .rd 7 11
  | .xst => uimmBitField env st .rs2 20 24
  | .xsO2 => uimmBitField env st .xso2 26 27
  | .xsO1 => uimmBitField env st .xso1 26 26
  | .unknown => .fatal

/-- The loop of `riscv_ip` over `oparg`, up to the end of the operands. -/
def ipLetters (env : IpEnv) (op : RiscvOpcodeRow) : List Letter → IpState → LetterResult
  | [], st => .next st
  | letter :: rest, st =>
    match ipLetter env op { st with asarg := skipBlanks st.asarg } letter with
    | .next st => ipLetters env op rest st
    | result => result

/-! ## The loop over the rows -/

/-- How a row ends; the message is for the case that no row follows. -/
inductive RowResult
  | done (st : IpState)
  | mismatch (msg : String) (bad : List AsBad)
  | fatal
  deriving DecidableEq, Repr

/-- The case `'\0'`. -/
def endOfArgs (env : IpEnv) (op : RiscvOpcodeRow) (st : IpState) : RowResult :=
  let length := riscvInsnLength (if op.matchBits = 0 ∧ op.mask = 0 then st.insn else op.matchBits)
  if op.matchFunc ≠ .null ∧ op.accepts st.insn = false then .mismatch "illegal operands" st.bad
  else if op.pinfo ≠ insnMacro ∧ length = 2 ∧ env.rvc = false then .mismatch "illegal operands" st.bad
  else if op.pinfo ≠ insnMacro ∧ op.pinfo &&& insnVEew64 ≠ 0 ∧ env.riscvSubsetSupports "zve32x" ∧
      env.riscvSubsetSupports "zve64x" = false then
    .mismatch "illegal opcode for zve32x" st.bad
  else if st.asarg ≠ [] then .mismatch "illegal operands" st.bad
  else .done st

/-- `create_insn`, and the operands before the first letter. -/
def startRow (op : RiscvOpcodeRow) (text : List Char) : IpState := { asarg := text, insn := op.matchBits }

/-- One round of the loop over the rows. -/
def ipRow (env : IpEnv) (op : RiscvOpcodeRow) (text : List Char) : RowResult :=
  match ipLetters env op (letters op.args) (startRow op text) with
  | .next st => endOfArgs env op { st with asarg := skipBlanks st.asarg }
  | .mismatch bad => .mismatch "illegal operands" bad
  | .fatal => .fatal

/-- `struct riscv_ip_error`. -/
structure IpError where
  msg : String
  missingExt : Option String
  deriving DecidableEq, Repr

/-- What `riscv_ip` returns: the row with the word and the pending operand, or the error. -/
inductive IpResult
  | insn (op : RiscvOpcodeRow) (st : IpState) (bad : List AsBad)
  | error (err : IpError) (bad : List AsBad)
  | fatal
  deriving DecidableEq

/-- The rows of one name, one after the other. -/
def ipRows (env : IpEnv) (text : List Char) : List RiscvOpcodeRow → IpError → List AsBad → IpResult
  | [], err, bad => .error err bad
  | op :: ops, err, bad =>
    if op.xlenRequirement ≠ 0 ∧ env.xlen.bits ≠ op.xlenRequirement then ipRows env text ops err bad
    else if env.riscvMultiSubsetSupports op.insnClass = false then
      ipRows env text ops { err with missingExt := env.riscvMultiSubsetSupportsExt op.insnClass } bad
    else
      match ipRow env op text with
      | .done st => .insn op st bad
      | .mismatch msg bad' => ipRows env text ops ⟨msg, none⟩ (bad ++ bad')
      | .fatal => .fatal

/-- `riscv_ip`, for a name and the text behind it. -/
def riscvIp (env : IpEnv) (hash : List RiscvOpcodeRow) (name : String) (text : List Char) : IpResult :=
  ipRows env text ((hash.dropWhile fun op => op.name ≠ name).takeWhile fun op => op.name = name)
    ⟨"unrecognized opcode", none⟩ []

/-- The word as `append_insn` puts it, with the fixups that write into it. -/
def appendInsn (env : IpEnv) (st : IpState) : Opcode.Insn :=
  let value := if st.immExpr.op = .constant then st.immExpr.addNumber else env.fixValue st.immExpr
  match st.immReloc with
  | some .hi20 => st.insn ||| riscvApplyConstReloc .hi20 value
  | some .lo12I => st.insn ||| riscvApplyConstReloc .lo12I value
  | some .lo12S => st.insn ||| riscvApplyConstReloc .lo12S value
  | _ => st.insn

end RiscvBinutils.Gas.Ip
