/-
Numbers as they are written in an operand (gas/expr.c, `integer_constant`), and what is read.
An octal number of 22 digits counts as one that fits into 64 bits, and loses the bits above them.
-/
import Mathlib.Data.List.TakeWhile
import RiscvBinutils.Gas.Hardcode

namespace RiscvBinutils.Gas

open RiscvBinutils.Base

/-! ## What is written -/

/-- A number by its digits; one with underscores has four words. -/
inductive Numeral
  | digits (radix : Nat) (ds : List Nat)
  | words (ws : List (List Nat))
  deriving DecidableEq, Repr

def Numeral.value : Numeral → Nat
  | .digits radix ds => ofDigits radix ds
  | .words ws => ofDigits (2 ^ 32) (ws.map (ofDigits 16))

/-- An octal number of 22 digits that has more than 64 bits. -/
def Numeral.Overflows : Numeral → Prop
  | .digits radix ds => radix = 8 ∧ ds.length = 22 ∧ 2 ^ 64 ≤ ofDigits radix ds
  | .words _ => False

/-- The digits at the beginning of a text. -/
def digitsOf (radix : Nat) (text : List Char) : List Nat :=
  (text.takeWhile fun c => hexValue c < radix).map hexValue

/-- The text behind the digits and a suffix. -/
def behindDigits (radix : Nat) (text : List Char) : List Char := skipSuffix (text.dropWhile fun c => hexValue c < radix)

/-- A hexadecimal digit or an underscore. -/
def inWords (c : Char) : Bool := hexValue c < 16 || c = '_'

/-- The words that underscores separate. -/
def wordsOf (text : List Char) : List (List Nat) := ((text.takeWhile inWords).splitOn '_').map (List.map hexValue)

/-- A hexadecimal number and the text behind it: it has a digit, or four words of at most eight digits. -/
def hexNumeral (text : List Char) : Option (Numeral × List Char) :=
  if (text.dropWhile fun c => hexValue c < 16).head? = some '_' then
    if (wordsOf text).length = 4 ∧ ∀ word ∈ wordsOf text, word.length ≤ 8 then
      some (.words (wordsOf text), skipSuffix (text.dropWhile inWords))
    else none
  else if digitsOf 16 text = [] then none
  else some (.digits 16 (digitsOf 16 text), behindDigits 16 text)

/-- The number at the beginning of a text, and the text behind it. -/
def numeral (text : List Char) : Option (Numeral × List Char) :=
  match text with
  | '0' :: c :: rest =>
    if c = 'x' ∨ c = 'X' then hexNumeral rest
    else if (c = 'b' ∨ c = 'B') ∧ (rest.head? = some '0' ∨ rest.head? = some '1') then
      some (.digits 2 (digitsOf 2 rest), behindDigits 2 rest)
    else some (.digits 8 (digitsOf 8 (c :: rest)), behindDigits 8 (c :: rest))
  | c :: rest =>
    if '0' ≤ c ∧ c ≤ '9' then some (.digits 10 (digitsOf 10 (c :: rest)), behindDigits 10 (c :: rest)) else none
  | [] => none

/-- A value ends at the end of the text or at a comma. -/
def Ends (text : List Char) : Prop := skipWhitespace text = [] ∨ (skipWhitespace text).head? = some ','

instance (text : List Char) : Decidable (Ends text) := inferInstanceAs (Decidable (_ ∨ _))

/-- The number that a value is, if it is nothing but a number. -/
def writtenNumeral (text : List Char) : Option Numeral :=
  match numeral (skipWhitespace text) with
  | some (n, rest) => if Ends rest then some n else none
  | none => none

/-- The integer that a value denotes: the number that is written, or else what `expression` makes of the names,
characters and operators. -/
def denoted (env : ExprEnv) (bignum : GenericBignum) (text : List Char) : Option Nat :=
  match writtenNumeral text with
  | some n => some n.value
  | none => (expression env bignum text).value

/-- The value is an octal number, of 22 digits behind its zero, that has more than 64 bits. -/
def OctalOverflow (text : List Char) : Prop := ∃ n, writtenNumeral text = some n ∧ n.Overflows

/-! ## What is read -/

/-- The operand is an integer; if it is big, it is without leading zeros. -/
structure ReadsInteger (p : Parsed) (v : Nat) : Prop where
  value : p.value = some v
  top : ∀ addNumber bound, p.operand = .big addNumber bound → ∃ d, p.bignum.read (addNumber - 1) = some d ∧ d ≠ 0

section Read

variable {env : ExprEnv} {bignum : GenericBignum} {radix v : Nat} {text rest : List Char}

theorem digitsOf_lt : ∀ d ∈ digitsOf radix text, d < radix := by
  intro d hd
  obtain ⟨c, hc, rfl⟩ := List.mem_map.mp hd
  simpa using List.mem_takeWhile_imp hc

/-- A number is not a label. -/
theorem smallNumber_ends (hrest : Ends rest) (number : BitVec 64) (bad : Bool) :
    smallNumber env bignum number rest bad = { operand := .constant number, rest, bignum, bad } := by
  unfold smallNumber
  split
  · rcases hrest with h | h <;> simp [skipWhitespace] at h
  · rcases hrest with h | h <;> simp [skipWhitespace] at h
  · rfl

theorem readsInteger_small (hv : v < 2 ^ 64) (bad : Bool) :
    ReadsInteger { operand := .constant (BitVec.ofNat 64 v), rest, bignum, bad } v := by
  refine ⟨?_, fun _ _ h => by cases h⟩
  show some (BitVec.ofNat 64 v).toNat = some v
  rw [BitVec.toNat_ofNat, Nat.mod_eq_of_lt hv]

/-- The littlenums of a number, which are no more than it needs, are read as the number. -/
theorem largeNumber_reads {nums : List Littlenum} (hnums : nums.length ≤ bignumSize) (hvalue : fromLimbs nums = v)
    (hleast : 1 < nums.length → (2 ^ 16) ^ (nums.length - 1) ≤ v) (hrest : Ends rest) {b : GenericBignum}
    (hb : b.nums.take nums.length = nums) (bad : Bool) :
    ReadsInteger (largeNumber env b nums hnums rest bad) v ∧ (largeNumber env b nums hnums rest bad).rest = rest := by
  unfold largeNumber
  split
  · rename_i hshort
    rw [hvalue, smallNumber_ends hrest]
    refine ⟨readsInteger_small ?_ bad, rfl⟩
    calc v = fromLimbs nums := hvalue.symm
      _ < (2 ^ 16) ^ nums.length := fromLimbs_lt nums
      _ ≤ (2 ^ 16) ^ 4 := Nat.pow_le_pow_right (by decide) hshort
      _ = 2 ^ 64 := by norm_num
  · rename_i hlong
    refine ⟨⟨?_, ?_⟩, rfl⟩
    · unfold Parsed.value
      dsimp only
      rw [if_pos (by omega), Int.toNat_natCast, hb, hvalue]
    · intro addNumber bound hop
      cases hop
      obtain ⟨k, hk⟩ : ∃ k, nums.length = k + 1 := ⟨nums.length - 1, by omega⟩
      obtain ⟨d, hread, hsucc⟩ := @GenericBignum.read_eq b k (by omega)
      refine ⟨d, ?_, ?_⟩
      · rw [show ((nums.length : Int) - 1) = k by omega]
        exact hread
      · rintro rfl
        -- the number would be shorter with a zero at the top
        have hsum := fromLimbs_take_succ (by omega) hsucc
        have hlt := @fromLimbs_take_lt b k (by omega)
        have hle := hleast (by omega)
        rw [← hk, hb, hvalue, show (0 : Littlenum).toNat = 0 from rfl, Nat.mul_zero, Nat.add_zero] at hsum
        rw [hk, Nat.add_sub_cancel, pow_littlenum] at hle
        omega

/-- Few digits are a number of 64 bits, but 22 octal digits may have 66. -/
theorem few_digits (hradix : radix ∈ [2, 8, 10, 16]) (hfew : (digitsOf radix text).length < tooManyDigits radix) :
    ofDigits radix (digitsOf radix text) < 2 ^ 64 ∨ radix = 8 ∧ (digitsOf radix text).length = 22 := by
  have hlt := ofDigits_lt (@digitsOf_lt radix text)
  simp only [List.mem_cons, List.not_mem_nil, or_false] at hradix
  have hbound {n : Nat} (hpos : 0 < radix) (hn : (digitsOf radix text).length ≤ n) (hpow : radix ^ n ≤ 2 ^ 64) :
      ofDigits radix (digitsOf radix text) < 2 ^ 64 :=
    hlt.trans_le ((Nat.pow_le_pow_right hpos hn).trans hpow)
  rcases hradix with rfl | rfl | rfl | rfl
  · exact .inl (hbound (by decide) (Nat.lt_succ_iff.mp hfew) (by norm_num))
  · rcases Nat.lt_or_ge (digitsOf 8 text).length 22 with hless | hmany
    · exact .inl (hbound (by decide) (Nat.lt_succ_iff.mp hless) (by norm_num))
    · exact .inr ⟨rfl, Nat.le_antisymm (Nat.lt_succ_iff.mp hfew) hmany⟩
  · exact .inl (hbound (by decide) (Nat.lt_succ_iff.mp hfew) (by norm_num))
  · exact .inl (hbound (by decide) (Nat.lt_succ_iff.mp hfew) (by norm_num))

/-- How a number is read: as it is, unless it is cut to 64 bits or takes all littlenums. -/
structure ReadsNumeral (p : Parsed) (n : Numeral) : Prop where
  overflow : n.Overflows → p.operand = .constant (BitVec.ofNat 64 n.value)
  plain : ¬n.Overflows → ReadsInteger p n.value ∨
    (2 ^ 16) ^ sizeOfLargeNumber ≤ n.value ∧ ∃ bound, p.operand = .big sizeOfLargeNumber bound

variable (env bignum)

theorem integerConstant_digits (hradix : radix ∈ [2, 8, 10, 16]) (hne : text ≠ [])
    (hplain : radix = 16 → (text.dropWhile fun c => hexValue c < 16).head? ≠ some '_')
    (hends : Ends (behindDigits radix text)) :
    (integerConstant env bignum radix text).rest = behindDigits radix text ∧
      ReadsNumeral (integerConstant env bignum radix text) (.digits radix (digitsOf radix text)) := by
  have hdigits := @digitsOf_lt radix text
  have hpow : radix ≤ 2 ^ 16 := by
    simp only [List.mem_cons, List.not_mem_nil, or_false] at hradix
    omega
  have hword : ¬(radix = 16 ∧ (text.dropWhile fun c => decide (hexValue c < radix)).head? = some '_') := by
    rintro ⟨rfl, hhead⟩
    exact hplain rfl hhead
  have heq : integerConstant env bignum radix text =
      if (digitsOf radix text).length < tooManyDigits radix then
        smallNumber env bignum (BitVec.ofNat 64 (ofDigits radix (digitsOf radix text))) (behindDigits radix text) false
      else largeNumber env ((bignum.write [0, 0, 0, 0] (by decide)).write
          (readDigits 16 radix sizeOfLargeNumber (digitsOf radix text))
          ((readDigits_length radix (digitsOf radix text)).trans (by decide)))
        (readDigits 16 radix sizeOfLargeNumber (digitsOf radix text))
        ((readDigits_length radix (digitsOf radix text)).trans (by decide)) (behindDigits radix text) false := by
    unfold integerConstant
    rw [if_neg hne]
    dsimp only
    rw [if_neg hword]
    rfl
  rw [heq]
  split
  · rename_i hfew
    rw [smallNumber_ends hends]
    refine ⟨rfl, fun _ => rfl, fun hno => .inl (readsInteger_small ?_ false)⟩
    rcases few_digits hradix hfew with hlt | ⟨hoctal, hlen⟩
    · exact hlt
    · exact Nat.lt_of_not_le fun hlarge => hno ⟨hoctal, hlen, hlarge⟩
  · rename_i hmany
    refine ⟨?_, ?_, fun _ => ?_⟩
    · unfold largeNumber
      split
      · rw [smallNumber_ends hends]
      · rfl
    · rintro ⟨rfl, hlen, -⟩
      exact absurd (hlen ▸ (by decide : 22 < tooManyDigits 8)) hmany
    · rcases Nat.lt_or_ge (ofDigits radix (digitsOf radix text)) ((2 ^ 16) ^ sizeOfLargeNumber) with hfits | hfull
      · have hspells := readDigits_spells hpow (by decide) hdigits hfits
        exact .inl (largeNumber_reads _ hspells.value hspells.least hends List.take_left false).1
      · have hlen := readDigits_full hpow (by decide) hdigits hfull
        refine .inr ⟨hfull, by decide, ?_⟩
        unfold largeNumber
        rw [if_neg (by rw [hlen]; decide)]
        simp only [hlen]

/-! ## Words -/

theorem underscoreNums_append (ws : List (List Nat)) (word : List Nat) :
    underscoreNums (ws ++ [word]) = (BitVec.ofNat 16 (ofDigits 16 word) ::
      BitVec.ofNat 16 (ofDigits 16 word / 2 ^ 16) :: underscoreNums ws).take sizeOfLargeNumber := by
  rw [underscoreNums, List.foldl_append]
  rfl

/-- Each word has two littlenums. -/
theorem underscoreNums_value {ws : List (List Nat)} (hroom : 2 * ws.length ≤ sizeOfLargeNumber)
    (hwords : ∀ word ∈ ws, ofDigits 16 word < 2 ^ 32) :
    (underscoreNums ws).length = 2 * ws.length ∧
      fromLimbs (underscoreNums ws) = ofDigits (2 ^ 32) (ws.map (ofDigits 16)) := by
  induction ws using List.reverseRecOn with
  | nil => exact ⟨rfl, rfl⟩
  | append_singleton ws word ih =>
    rw [List.length_append, List.length_singleton] at hroom ⊢
    obtain ⟨hlen, hvalue⟩ := ih (by omega) fun word hword => hwords word (List.mem_append_left _ hword)
    have hlt := hwords word (by simp)
    have hlast : ofDigits (2 ^ 32) [ofDigits 16 word] = ofDigits 16 word := by simp [ofDigits]
    rw [underscoreNums_append, List.take_of_length_le (by rw [List.length_cons, List.length_cons, hlen]; omega)]
    refine ⟨by rw [List.length_cons, List.length_cons, hlen]; omega, ?_⟩
    rw [fromLimbs, fromLimbs, hvalue, BitVec.toNat_ofNat, BitVec.toNat_ofNat, List.map_append, ofDigits_append,
      List.map_singleton, List.length_singleton, pow_one, hlast]
    omega

/-- What is trimmed are the zeros at the top. -/
theorem trimNums_spec (nums : List Littlenum) :
    trimNums nums <+: nums ∧ fromLimbs (trimNums nums) = fromLimbs nums ∧
      (1 < (trimNums nums).length → (2 ^ 16) ^ ((trimNums nums).length - 1) ≤ fromLimbs nums) := by
  have hvalue := fromLimbs_dropWhile nums.reverse
  rw [List.reverse_reverse] at hvalue
  unfold trimNums
  split
  · rename_i hzero
    rw [hzero] at hvalue
    refine ⟨List.take_prefix _ _, ?_, fun h => absurd h (by rw [List.length_take]; omega)⟩
    cases nums with
    | nil => rfl
    | cons d ds =>
      rw [List.take_succ_cons, List.take_zero, ← hvalue]
      have hd : d = 0 := List.dropWhile_eq_nil_iff.mp hzero d (by simp) |> of_decide_eq_true
      rw [hd]
      rfl
  · rename_i hsome
    refine ⟨?_, hvalue, fun _ => ?_⟩
    · rw [← List.reverse_suffix, List.reverse_reverse]
      exact List.dropWhile_suffix _
    · rcases htrim : nums.reverse.dropWhile (· = 0) with _ | ⟨d, ds⟩
      · exact absurd htrim hsome
      · have hd : d ≠ 0 := by
          have hhead := List.head?_dropWhile_not (fun d : Littlenum => decide (d = 0)) nums.reverse
          rw [htrim] at hhead
          exact of_decide_eq_false hhead
        rw [htrim] at hvalue
        have hpos : 0 < d.toNat := Nat.pos_of_ne_zero fun h => hd (BitVec.eq_of_toNat_eq h)
        rw [← hvalue, List.reverse_cons, fromLimbs_append, List.length_reverse, fromLimbs, fromLimbs, Nat.mul_zero,
          Nat.add_zero, htrim, List.length_reverse, List.length_cons, Nat.add_sub_cancel]
        calc (2 ^ 16) ^ ds.length ≤ (2 ^ 16) ^ ds.length * d.toNat := Nat.le_mul_of_pos_right _ hpos
          _ ≤ fromLimbs ds.reverse + (2 ^ 16) ^ ds.length * d.toNat := Nat.le_add_left _ _

/-- A part of a split list is without separators. -/
theorem mem_splitOnP {α : Type} {sep : α → Bool} {xs word : List α} (hword : word ∈ xs.splitOnP sep) :
    ∀ x ∈ word, x ∈ xs ∧ sep x = false := by
  induction xs generalizing word with
  | nil =>
    rw [List.splitOnP_nil, List.mem_singleton] at hword
    simp [hword]
  | cons y ys ih =>
    rw [List.splitOnP_cons_eq_if_modifyHead] at hword
    split at hword
    · rcases List.mem_cons.mp hword with rfl | htail
      · simp
      · exact fun x hx => ⟨List.mem_cons_of_mem _ (ih htail x hx).1, (ih htail x hx).2⟩
    · rename_i hsep
      obtain ⟨head, tail, hparts⟩ := List.exists_cons_of_ne_nil (@List.splitOnP_ne_nil _ sep ys)
      rw [hparts, List.modifyHead_cons] at hword
      rcases List.mem_cons.mp hword with rfl | htail
      · intro x hx
        rcases List.mem_cons.mp hx with rfl | hx
        · exact ⟨List.mem_cons_self, Bool.eq_false_of_not_eq_true hsep⟩
        · have hhead := ih (hparts ▸ List.mem_cons_self) x hx
          exact ⟨List.mem_cons_of_mem _ hhead.1, hhead.2⟩
      · have hrest (x : α) (hx : x ∈ word) := ih (hparts ▸ List.mem_cons_of_mem _ htail) x hx
        exact fun x hx => ⟨List.mem_cons_of_mem _ (hrest x hx).1, (hrest x hx).2⟩

theorem wordsOf_lt {word : List Nat} (hword : word ∈ wordsOf text) : ∀ d ∈ word, d < 16 := by
  obtain ⟨chars, hchars, rfl⟩ := List.mem_map.mp hword
  intro d hd
  obtain ⟨c, hc, rfl⟩ := List.mem_map.mp hd
  obtain ⟨htake, hsep⟩ := mem_splitOnP hchars c hc
  have hin := List.mem_takeWhile_imp htake
  unfold inWords at hin
  simpa [show c ≠ '_' from fun h => by simp [h] at hsep] using hin

/-- Four words of up to eight digits are read as they are. -/
theorem integerConstant_words (hhead : (text.dropWhile fun c => hexValue c < 16).head? = some '_')
    (hlen : (wordsOf text).length = 4) (hwords : ∀ word ∈ wordsOf text, word.length ≤ 8)
    (hends : Ends (skipSuffix (text.dropWhile inWords))) :
    (integerConstant env bignum 16 text).rest = skipSuffix (text.dropWhile inWords) ∧
      ReadsNumeral (integerConstant env bignum 16 text) (.words (wordsOf text)) := by
  have hne : text ≠ [] := by
    rintro rfl
    cases hhead
  have hsmall : ∀ word ∈ wordsOf text, ofDigits 16 word < 2 ^ 32 := by
    intro word hword
    calc ofDigits 16 word < 16 ^ word.length := ofDigits_lt (wordsOf_lt hword)
      _ ≤ 16 ^ 8 := Nat.pow_le_pow_right (by decide) (hwords word hword)
      _ = 2 ^ 32 := by norm_num
  obtain ⟨hnums, hvalue⟩ := underscoreNums_value (by rw [hlen]; decide) hsmall
  have hall : (underscoreNums (wordsOf text)).take (sizeOfLargeNumber - 1) = underscoreNums (wordsOf text) :=
    List.take_of_length_le (by rw [hnums, hlen]; decide)
  obtain ⟨htop, htrim, hleast⟩ := trimNums_spec (underscoreNums (wordsOf text))
  obtain ⟨bad, heq⟩ : ∃ bad, integerConstant env bignum 16 text =
      largeNumber env (bignum.write (underscoreNums (wordsOf text)) ((underscoreNums_length _).trans (by decide)))
        (trimNums ((underscoreNums (wordsOf text)).take (sizeOfLargeNumber - 1)))
        ((trimNums_length _).trans ((List.length_take_le _ _).trans (by decide)))
        (skipSuffix (text.dropWhile inWords)) bad := by
    unfold integerConstant
    rw [if_neg hne]
    dsimp only
    rw [if_pos ⟨rfl, hhead⟩]
    exact ⟨_, rfl⟩
  have htaken : (bignum.write (underscoreNums (wordsOf text)) ((underscoreNums_length _).trans (by decide))).nums.take
      (trimNums (underscoreNums (wordsOf text))).length = trimNums (underscoreNums (wordsOf text)) :=
    (List.prefix_iff_eq_take.mp (htop.trans (List.prefix_append _ _))).symm
  simp only [hall] at heq
  have hreads := @largeNumber_reads env _ _ _ ((trimNums_length _).trans ((underscoreNums_length _).trans (by decide)))
    (htrim.trans hvalue) (hvalue ▸ hleast) hends _ htaken bad
  rw [heq]
  exact ⟨hreads.2, ⟨fun h => h.elim, fun _ => .inl hreads.1⟩⟩

/-! ## Values -/

theorem hexNumeral_reads {n : Numeral} (h : hexNumeral text = some (n, rest)) (hends : Ends rest) :
    (integerConstant env bignum 16 text).rest = rest ∧ ReadsNumeral (integerConstant env bignum 16 text) n := by
  unfold hexNumeral at h
  split at h
  · rename_i hhead
    split at h
    · rename_i hwords
      cases h
      exact integerConstant_words env bignum hhead hwords.1 hwords.2 hends
    · cases h
  · rename_i hhead
    split at h
    · cases h
    · rename_i hdigits
      cases h
      refine integerConstant_digits env bignum (by decide) ?_ (fun _ => hhead) hends
      rintro rfl
      exact hdigits rfl

theorem octal_digit {c : Char} (h : hexValue c < 8) : c ∈ "lLuU01234567".toList := by
  have hnat : 48 ≤ c.toNat ∧ c.toNat < 56 := by
    unfold hexValue at h
    split at h
    · rename_i hc
      have hlow : 48 ≤ c.toNat := UInt32.le_iff_toNat_le.mp hc.1
      have hzero : '0'.toNat = 48 := rfl
      omega
    · split at h
      · omega
      · split at h <;> omega
  obtain ⟨hlow, hhigh⟩ := hnat
  rw [← Char.ofNat_toNat c]
  generalize c.toNat = k at hlow hhigh
  interval_cases k <;> decide

/-- A zero with nothing behind it that belongs to a number. -/
theorem behindDigits_zero {c : Char} (h : c ∉ "lLuU01234567".toList) :
    digitsOf 8 (c :: text) = [] ∧ behindDigits 8 (c :: text) = c :: text := by
  have hdigit : decide (hexValue c < 8) = false := decide_eq_false fun hlt => h (octal_digit hlt)
  have hsuffix : c ≠ 'l' ∧ c ≠ 'L' ∧ c ≠ 'u' ∧ c ≠ 'U' := by
    refine ⟨?_, ?_, ?_, ?_⟩ <;> (rintro rfl; exact h (by decide))
  obtain ⟨hl, hL, hu, hU⟩ := hsuffix
  refine ⟨by simp [digitsOf, hdigit], ?_⟩
  rw [behindDigits, List.dropWhile_cons_of_neg (by simp [hdigit])]
  simp [skipSuffix, hl, hL, hu, hU]

/-- The numbers behind a zero. -/
theorem zeroPrefixed_reads {n : Numeral} (h : numeral ('0' :: text) = some (n, rest)) (hends : Ends rest) :
    (zeroPrefixed env bignum text).rest = rest ∧ ReadsNumeral (zeroPrefixed env bignum text) n := by
  have hzero {tail : List Char} {n : Numeral} (hn : n.value = 0) (hno : ¬n.Overflows) :
      ReadsNumeral { operand := .constant 0, rest := tail, bignum } n := by
    refine ⟨fun ho => absurd ho hno, fun _ => .inl ?_⟩
    rw [hn]
    exact readsInteger_small (by decide) false
  cases text with
  | nil =>
    cases h
    exact ⟨rfl, hzero rfl fun h => absurd h.1 (by decide)⟩
  | cons c text =>
    have hnumeral : numeral ('0' :: c :: text) =
        if c = 'x' ∨ c = 'X' then hexNumeral text
        else if (c = 'b' ∨ c = 'B') ∧ (text.head? = some '0' ∨ text.head? = some '1') then
          some (.digits 2 (digitsOf 2 text), behindDigits 2 text)
        else some (.digits 8 (digitsOf 8 (c :: text)), behindDigits 8 (c :: text)) := rfl
    rw [hnumeral] at h
    split at h
    · rename_i hx
      have heq : zeroPrefixed env bignum (c :: text) = integerConstant env bignum 16 text := if_pos hx
      rw [heq]
      exact hexNumeral_reads env bignum h hends
    · rename_i hx
      split at h
      · rename_i hb
        cases h
        have hne : text ≠ [] := by
          rintro rfl
          simp at hb
        have heq : zeroPrefixed env bignum (c :: text) = integerConstant env bignum 2 text := by
          unfold zeroPrefixed
          rcases hb with ⟨rfl | rfl, hbinary⟩ <;> simp [hbinary]
        rw [heq]
        exact integerConstant_digits env bignum (by decide) hne (fun h => absurd h (by decide)) hends
      · cases h
        by_cases hoctal : c ∈ "lLuU01234567".toList
        · have heq : zeroPrefixed env bignum (c :: text) = integerConstant env bignum 8 (c :: text) := by
            have hb : c ≠ 'b' ∧ c ≠ 'B' := by
              constructor <;> (rintro rfl; exact absurd hoctal (by decide))
            unfold zeroPrefixed
            simp only [hx, hb.1, hb.2, hoctal, if_true, if_false]
          rw [heq]
          exact integerConstant_digits env bignum (by decide) (List.cons_ne_nil _ _) (fun h => absurd h (by decide)) hends
        · obtain ⟨hdigits, hbehind⟩ := behindDigits_zero hoctal
          rw [hbehind] at hends ⊢
          rw [hdigits]
          have hc : c = ' ' ∨ c = ',' := by
            by_cases hblank : c = ' '
            · exact .inl hblank
            · refine .inr ?_
              have hskip : skipWhitespace (c :: text) = c :: text := by
                unfold skipWhitespace
                split
                · rename_i heq
                  cases heq
                  exact absurd rfl hblank
                · rfl
              rw [Ends, hskip] at hends
              simpa using hends
          have heq : zeroPrefixed env bignum (c :: text) =
              { operand := .constant 0, rest := c :: text, bignum } := by
            rcases hc with rfl | rfl <;> rfl
          rw [heq]
          exact ⟨rfl, hzero rfl fun h => absurd h.2.1 (by decide)⟩

theorem ReadsNumeral.withRest {p : Parsed} {n : Numeral} (h : ReadsNumeral p n) (rest : List Char) :
    ReadsNumeral { p with rest } n :=
  ⟨h.overflow, fun hno => (h.plain hno).imp (fun hreads => ⟨hreads.value, hreads.top⟩) id⟩

/-- A value that is a number is read as one. -/
theorem expression_reads {n : Numeral} (h : numeral (skipWhitespace text) = some (n, rest)) (hends : Ends rest) :
    (expression env bignum text).rest = skipWhitespace rest ∧ ReadsNumeral (expression env bignum text) n := by
  have hoperand : (operand env bignum text).rest = skipWhitespace rest ∧ ReadsNumeral (operand env bignum text) n := by
    unfold operand
    rcases hskip : skipWhitespace text with _ | ⟨c, tail⟩
    · rw [hskip] at h
      cases h
    · rw [hskip] at h
      dsimp only
      by_cases hzero : c = '0'
      · subst hzero
        rw [if_pos rfl]
        obtain ⟨hrest, hreads⟩ := zeroPrefixed_reads env bignum h hends
        exact ⟨by rw [hrest], hreads.withRest _⟩
      · have hnumeral : numeral (c :: tail) =
            if '0' ≤ c ∧ c ≤ '9' then
              some (.digits 10 (digitsOf 10 (c :: tail)), behindDigits 10 (c :: tail))
            else none := by
          unfold numeral
          split
          · rename_i heq
            cases heq
            exact absurd rfl hzero
          · rename_i heq
            cases heq
            rfl
          · rename_i heq
            cases heq
        rw [hnumeral] at h
        rw [if_neg hzero]
        split at h
        · rename_i hdigit
          cases h
          have hpos : '1' ≤ c := by
            have hlow : 48 ≤ c.toNat := UInt32.le_iff_toNat_le.mp hdigit.1
            have hne : c.toNat ≠ 48 := fun h => hzero (Char.toNat_inj.mp h)
            have hone : 49 ≤ c.toNat := by omega
            exact UInt32.le_iff_toNat_le.mpr hone
          rw [if_pos ⟨hpos, hdigit.2⟩]
          obtain ⟨hrest, hreads⟩ := integerConstant_digits env bignum (by decide)
            (List.cons_ne_nil c tail) (fun h => absurd h (by decide)) hends
          exact ⟨by rw [hrest], hreads.withRest _⟩
        · cases h
  unfold expression
  dsimp only
  rw [if_pos (by rw [hoperand.1]; exact hends)]
  exact hoperand

/-- The number that is written is read as it is, without what is above 64 bits of an octal number, or into all
littlenums. -/
theorem denoted_cases (env : ExprEnv) (bignum : GenericBignum) (text : List Char) :
    (OctalOverflow text ∧ ∃ v, denoted env bignum text = some v ∧ 2 ^ 64 ≤ v ∧
      (expression env bignum text).operand = .constant (BitVec.ofNat 64 v)) ∨
    (¬OctalOverflow text ∧ denoted env bignum text = (expression env bignum text).value) ∨
    (¬OctalOverflow text ∧ ∃ bound, (expression env bignum text).operand = .big sizeOfLargeNumber bound) := by
  unfold OctalOverflow denoted
  cases hwritten : writtenNumeral text with
  | none =>
    refine .inr (.inl ⟨?_, rfl⟩)
    rintro ⟨n, hn, -⟩
    cases hn
  | some n =>
    have hreads : ReadsNumeral (expression env bignum text) n := by
      unfold writtenNumeral at hwritten
      split at hwritten
      · rename_i n' rest hnumeral
        split at hwritten
        · rename_i hends
          cases hwritten
          exact (expression_reads env bignum hnumeral hends).2
        · cases hwritten
      · cases hwritten
    by_cases hoverflow : n.Overflows
    · refine .inl ⟨⟨n, rfl, hoverflow⟩, n.value, rfl, ?_, hreads.overflow hoverflow⟩
      cases n with
      | digits radix ds => exact hoverflow.2.2
      | words ws => exact hoverflow.elim
    · have hno : ¬∃ n', some n = some n' ∧ n'.Overflows := by
        rintro ⟨_, ⟨⟩, h⟩
        exact hoverflow h
      rcases hreads.plain hoverflow with hvalue | ⟨-, hfull⟩
      · exact .inr (.inl ⟨hno, hvalue.value.symm⟩)
      · exact .inr (.inr ⟨hno, hfull⟩)

end Read

end RiscvBinutils.Gas
