/-
Constants in the operands of the assembler (gas/expr.c, `integer_constant` and `operand`).
A number that fits into 64 bits is a constant; a longer one is left in `generic_bignum`.
-/
import RiscvBinutils.Base.Limbs
import RiscvBinutils.Opcode.Imm

namespace RiscvBinutils.Gas

open RiscvBinutils.Base

/-! ## Expressions -/

/-- `LITTLENUM_TYPE`. -/
abbrev Littlenum := BitVec 16

/-- `SIZE_OF_LARGE_NUMBER`. -/
def sizeOfLargeNumber : Nat := 20

/-- The number of elements of `generic_bignum`. -/
def bignumSize : Nat := sizeOfLargeNumber + 6

/-- `generic_bignum`. -/
structure GenericBignum where
  nums : List Littlenum
  size : nums.length = bignumSize
  deriving DecidableEq, Repr

/-- Store from the beginning. -/
def GenericBignum.write (b : GenericBignum) (nums : List Littlenum) (h : nums.length ≤ bignumSize) : GenericBignum where
  nums := nums ++ b.nums.drop nums.length
  size := by rw [List.length_append, List.length_drop, b.size]; omega

/-- `expressionS`: for `O_big`, `X_add_number` is the number of littlenums, or not positive for a float. -/
inductive Operand
  | absent
  | constant (addNumber : BitVec 64)
  | big (addNumber : Int) (bound : addNumber ≤ bignumSize)
  | other
  deriving DecidableEq, Repr

/-- The outcome of `expression`: where `input_line_pointer` is, `generic_bignum`, and whether an error is reported. -/
structure Parsed where
  operand : Operand
  rest : List Char
  bignum : GenericBignum
  bad : Bool := false
  deriving DecidableEq, Repr

/-! ## Numbers -/

/-- `hex_value`. -/
def hexValue (c : Char) : Nat :=
  if '0' ≤ c ∧ c ≤ '9' then c.toNat - '0'.toNat
  else if 'a' ≤ c ∧ c ≤ 'f' then 10 + (c.toNat - 'a'.toNat)
  else if 'A' ≤ c ∧ c ≤ 'F' then 10 + (c.toNat - 'A'.toNat)
  else 99

/-- The least number of digits that does not surely fit into 64 bits. -/
def tooManyDigits (radix : Nat) : Nat :=
  if radix = 2 then 64 + 1
  else if radix = 8 then (64 + 2) / 3 + 1
  else if radix = 16 then (64 + 3) / 4 + 1
  else (64 + 11) / 4

/-- The suffixes `U`, `L`, `LL`, `UL`, `LU` and so on. -/
def skipSuffix (text : List Char) : List Char :=
  let isU (c : Char) : Bool := c = 'U' ∨ c = 'u'
  let isL (c : Char) : Bool := c = 'L' ∨ c = 'l'
  let skip (p : Char → Bool) (text : List Char) : List Char := if text.head?.any p then text.tail else text
  let uSeen := text.head?.any isU
  let text := skip isU text
  if text.head?.any isL then
    let text := skip isL text.tail
    if uSeen then text else skip isU text
  else text

/-- What is parsed outside of the numbers: local labels, floats, names and operators. -/
structure ExprEnv where
  /-- Whether the local label of a backward reference is defined. -/
  labelDefined : BitVec 64 → Bool
  /-- Whether what follows `0f` is read as a float. -/
  floatBehindF : List Char → Bool
  /-- `atof_generic`: where the float ends, its digits in `generic_bignum`, and whether there is an error. -/
  atof : GenericBignum → List Char → List Char × GenericBignum × Bool
  /-- An operand that does not begin with a digit. -/
  otherOperand : GenericBignum → List Char → Parsed
  /-- The operators behind an operand. -/
  operators : Parsed → Parsed

/-- The end of `integer_constant` for a number that fits. -/
def smallNumber (env : ExprEnv) (bignum : GenericBignum) (number : BitVec 64) (text : List Char) (bad : Bool) :
    Parsed :=
  match text with
  | 'b' :: rest =>
    if env.labelDefined number then { operand := .other, rest, bignum, bad }
    else { operand := .constant 0, rest, bignum, bad := true }
  | 'f' :: rest => { operand := .other, rest, bignum, bad }
  | rest => { operand := .constant number, rest, bignum, bad }

/-- The littlenums of a number with underscores, of which each word has two. -/
def underscoreNums (words : List (List Nat)) : List Littlenum :=
  words.foldl (fun nums word =>
    (BitVec.ofNat 16 (ofDigits 16 word) :: BitVec.ofNat 16 (ofDigits 16 word / 2 ^ 16) :: nums).take
      sizeOfLargeNumber) []

/-- Leading zeros are trimmed, but one littlenum stays. -/
def trimNums (nums : List Littlenum) : List Littlenum :=
  match nums.reverse.dropWhile (· = 0) with
  | [] => nums.take 1
  | trimmed => trimmed.reverse

/-- The end of `integer_constant`: a number of at most four littlenums fits. -/
def largeNumber (env : ExprEnv) (bignum : GenericBignum) (nums : List Littlenum) (hnums : nums.length ≤ bignumSize)
    (text : List Char) (bad : Bool) : Parsed :=
  if nums.length ≤ 4 then smallNumber env bignum (BitVec.ofNat 64 (fromLimbs nums)) text bad
  else { operand := .big nums.length (by exact_mod_cast hnums), rest := text, bignum, bad }

theorem pushDigit_length (radix limit : Nat) (ds : List Littlenum) (digit : Nat) (h : ds.length ≤ limit) :
    (pushDigit radix limit ds digit).length ≤ limit := by
  unfold pushDigit
  dsimp only
  split
  · rename_i hgrow
    rw [List.length_append, mulAdd_length]
    exact hgrow.2
  · rw [mulAdd_length]
    exact h

theorem readDigits_length (radix : Nat) (digits : List Nat) :
    (readDigits 16 radix sizeOfLargeNumber digits).length ≤ sizeOfLargeNumber := by
  unfold readDigits
  induction digits using List.reverseRecOn with
  | nil => exact (by decide : 1 ≤ sizeOfLargeNumber)
  | append_singleton digits d ih =>
    rw [List.foldl_append]
    exact pushDigit_length radix sizeOfLargeNumber _ d ih

theorem underscoreNums_length (words : List (List Nat)) : (underscoreNums words).length ≤ sizeOfLargeNumber := by
  unfold underscoreNums
  induction words using List.reverseRecOn with
  | nil => decide
  | append_singleton words word _ =>
    rw [List.foldl_append]
    exact List.length_take_le _ _

theorem trimNums_length (nums : List Littlenum) : (trimNums nums).length ≤ nums.length := by
  unfold trimNums
  split
  · exact List.length_take_le' _ _
  · rw [List.length_reverse, ← @List.length_reverse _ nums]
    exact (List.dropWhile_sublist _).length_le

/-- `integer_constant`, with `text` at the first digit. -/
def integerConstant (env : ExprEnv) (bignum : GenericBignum) (radix : Nat) (text : List Char) : Parsed :=
  if text = [] then { operand := .absent, rest := text, bignum }
  else
    let isDigit (c : Char) : Bool := hexValue c < radix
    let digits := (text.takeWhile isDigit).map hexValue
    let rest := text.dropWhile isDigit
    if radix = 16 ∧ rest.head? = some '_' then
      let inNumber (c : Char) : Bool := isDigit c || c = '_'
      let words := ((text.takeWhile inNumber).splitOn '_').map (List.map hexValue)
      let nums := underscoreNums words
      -- words of at most eight digits, and exactly four of them
      let bad : Bool := words.any (fun word => 8 < word.length) ∨ words.length ≠ 4
      let used := trimNums (nums.take (sizeOfLargeNumber - 1))
      largeNumber env (bignum.write nums ((underscoreNums_length words).trans (by decide))) used
        ((trimNums_length _).trans ((List.length_take_le _ _).trans (by decide)))
        (skipSuffix (text.dropWhile inNumber)) bad
    else if digits.length < tooManyDigits radix then
      smallNumber env bignum (BitVec.ofNat 64 (ofDigits radix digits)) (skipSuffix rest) false
    else
      let nums := readDigits 16 radix sizeOfLargeNumber digits
      let cleared := bignum.write [0, 0, 0, 0] (by decide)
      largeNumber env (cleared.write nums ((readDigits_length radix digits).trans (by decide))) nums
        ((readDigits_length radix digits).trans (by decide)) (skipSuffix rest) false

/-! ## Operands -/

/-- `FLT_CHARS`. -/
def fltChars : List Char := "rRsSfFdDxXpPhH".toList

/-- `floating_constant` behind `0` and the letter `c`; it is marked by the letter, which is negative. -/
def floatingConstant (env : ExprEnv) (bignum : GenericBignum) (c : Char) (text : List Char) : Parsed :=
  let r := env.atof bignum text
  { operand := .big (-(c.toLower.toNat : Int)) (by have : bignumSize = 26 := rfl; omega)
    rest := r.1, bignum := r.2.1, bad := r.2.2 }

/-- The default case for a zero and what follows it. -/
def zeroOperand (env : ExprEnv) (bignum : GenericBignum) (text : List Char) : Parsed :=
  match text with
  | [] => { operand := .constant 0, rest := [], bignum }
  | c :: rest =>
    if c ∈ fltChars then floatingConstant env bignum c rest
    else { operand := .constant 0, rest := c :: rest, bignum }

/-- The operands that begin with `0`; `text` is what follows it. -/
def zeroPrefixed (env : ExprEnv) (bignum : GenericBignum) (text : List Char) : Parsed :=
  match text with
  | [] => zeroOperand env bignum []
  | c :: rest =>
    let binary : Bool := rest.head? = some '0' ∨ rest.head? = some '1'
    if c = 'x' ∨ c = 'X' then integerConstant env bignum 16 rest
    else if c = 'b' then
      if binary then integerConstant env bignum 2 rest else integerConstant env bignum 10 ('0' :: text)
    else if c = 'B' then
      if binary then integerConstant env bignum 2 rest else zeroOperand env bignum text
    else if c ∈ "lLuU01234567".toList then integerConstant env bignum 8 text
    else if c = 'f' then
      if env.floatBehindF rest then floatingConstant env bignum c rest
      else integerConstant env bignum 10 ('0' :: text)
    else if c ∈ "dDFreEgG".toList then floatingConstant env bignum c rest
    else zeroOperand env bignum text

/-- `ISSPACE`. -/
def isSpace (c : Char) : Bool := c ∈ [' ', '\t', '\n', '\x0b', '\x0c', '\r']

/-- `SKIP_WHITESPACE`. -/
def skipWhitespace : List Char → List Char
  | ' ' :: text => text
  | text => text

/-- `operand`. -/
def operand (env : ExprEnv) (bignum : GenericBignum) (text : List Char) : Parsed :=
  match skipWhitespace text with
  | [] => { operand := .absent, rest := [], bignum }
  | c :: rest =>
    let p :=
      if c = '0' then zeroPrefixed env bignum rest
      else if '1' ≤ c ∧ c ≤ '9' then integerConstant env bignum 10 (c :: rest)
      else env.otherOperand bignum (c :: rest)
    { p with rest := skipWhitespace p.rest }

/-- `expression`: neither a comma nor the end of the text is an operator. -/
def expression (env : ExprEnv) (bignum : GenericBignum) (text : List Char) : Parsed :=
  let p := operand env bignum text
  if p.rest = [] ∨ p.rest.head? = some ',' then p else env.operators p

end RiscvBinutils.Gas
