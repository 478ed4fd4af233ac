/-
The extensions that an instruction class asks for (bfd/elfxx-riscv.c): whether a list of subsets has
them, `riscv_multi_subset_supports`, and which ones are missing, `riscv_multi_subset_supports_ext`.
The answer of the second is part of a message, in which it stands between quotes.
-/
import RiscvBinutils.Base.Positive
import RiscvBinutils.Isa.Lowered
import RiscvBinutils.Opcode.Table

namespace RiscvBinutils.Isa

open Std RiscvBinutils.Base RiscvBinutils.Opcode

/-! ## The two switches -/

/-- What `riscv_multi_subset_supports` returns for a class; `default` is `none`. -/
def requirement : InsnClass → Option (Positive String)
  | .i => some (.atom "i")
  | .zicbom => some (.atom "zicbom")
  | .zicbop => some (.atom "zicbop")
  | .zicboz => some (.atom "zicboz")
  | .zicond => some (.atom "zicond")
  | .zicsr => some (.atom "zicsr")
  | .zifencei => some (.atom "zifencei")
  | .zihintntl => some (.atom "zihintntl")
  | .zihintntlAndC => some (.and "zihintntl" (.or "c" "zca"))
  | .zihintpause => some (.atom "zihintpause")
  | .m => some (.atom "m")
  | .zmmul => some (.atom "zmmul")
  | .a => some (.atom "a")
  | .zawrs => some (.atom "zawrs")
  | .f => some (.atom "f")
  | .d => some (.atom "d")
  | .q => some (.atom "q")
  | .c => some (.or "c" "zca")
  | .fAndC => some (.and "f" (.or "c" "zcf"))
  | .dAndC => some (.and "d" (.or "c" "zcd"))
  | .fInx => some (.or "f" "zfinx")
  | .dInx => some (.or "d" "zdinx")
  | .qInx => some (.or "q" "zqinx")
  | .zfhInx => some (.or "zfh" "zhinx")
  | .zfhmin => some (.atom "zfhmin")
  | .zfhminInx => some (.or "zfhmin" "zhinxmin")
  | .zfhminAndDInx => some (.or (.and "zfhmin" "d") (.and "zhinxmin" "zdinx"))
  | .zfhminAndQInx => some (.or (.and "zfhmin" "q") (.and "zhinxmin" "zqinx"))
  | .zfa => some (.atom "zfa")
  | .dAndZfa => some (.and "d" "zfa")
  | .qAndZfa => some (.and "q" "zfa")
  | .zfhAndZfa => some (.and "zfh" "zfa")
  | .zfhOrZvfhAndZfa => some (.and (.or "zfh" "zvfh") "zfa")
  | .zba => some (.atom "zba")
  | .zbb => some (.atom "zbb")
  | .zbc => some (.atom "zbc")
  | .zbs => some (.atom "zbs")
  | .zbkb => some (.atom "zbkb")
  | .zbkc => some (.atom "zbkc")
  | .zbkx => some (.atom "zbkx")
  | .zbbOrZbkb => some (.or "zbb" "zbkb")
  | .zbcOrZbkc => some (.or "zbc" "zbkc")
  | .zknd => some (.atom "zknd")
  | .zkne => some (.atom "zkne")
  | .zknh => some (.atom "zknh")
  | .zkndOrZkne => some (.or "zknd" "zkne")
  | .zksed => some (.atom "zksed")
  | .zksh => some (.atom "zksh")
  | .v => some (.or (.or "v" "zve64x") "zve32x")
  | .zvef => some (.or (.or (.or "v" "zve64d") "zve64f") "zve32f")
  | .zvbb => some (.atom "zvbb")
  | .zvbc => some (.atom "zvbc")
  | .zvkb => some (.atom "zvkb")
  | .zvkg => some (.atom "zvkg")
  | .zvkned => some (.atom "zvkned")
  | .zvknhaOrZvknhb => some (.or "zvknha" "zvknhb")
  | .zvksed => some (.atom "zvksed")
  | .zvksh => some (.atom "zvksh")
  | .zcb => some (.atom "zcb")
  | .zcbAndZbb => some (.and "zcb" "zbb")
  | .zcbAndZba => some (.and "zcb" "zba")
  | .zcbAndZmmul => some (.and "zcb" "zmmul")
  | .svinval => some (.atom "svinval")
  | .h => some (.atom "h")
  | .xcvmac => some (.atom "xcvmac")
  | .xcvalu => some (.atom "xcvalu")
  | .xtheadba => some (.atom "xtheadba")
  | .xtheadbb => some (.atom "xtheadbb")
  | .xtheadbs => some (.atom "xtheadbs")
  | .xtheadcmo => some (.atom "xtheadcmo")
  | .xtheadcondmov => some (.atom "xtheadcondmov")
  | .xtheadfmemidx => some (.atom "xtheadfmemidx")
  | .xtheadfmv => some (.atom "xtheadfmv")
  | .xtheadint => some (.atom "xtheadint")
  | .xtheadmac => some (.atom "xtheadmac")
  | .xtheadmemidx => some (.atom "xtheadmemidx")
  | .xtheadmempair => some (.atom "xtheadmempair")
  | .xtheadsync => some (.atom "xtheadsync")
  | .xtheadvector => some (.atom "xtheadvector")
  | .xtheadzvamo => some (.atom "xtheadzvamo")
  | .xventanacondops => some (.atom "xventanacondops")
  | .xsfvcp => some (.atom "xsfvcp")
  | .none => none

/-- What `riscv_multi_subset_supports_ext` returns for a class; `default` is `none`. -/
def missingExt (has : String → Bool) : InsnClass → Option String
  | .i => some "i"
  | .zicbom => some "zicbom"
  | .zicbop => some "zicbop"
  | .zicboz => some "zicboz"
  | .zicond => some "zicond"
  | .zicsr => some "zicsr"
  | .zifencei => some "zifencei"
  | .zihintntl => some "zihintntl"
  | .zihintntlAndC =>
    if !has "zihintntl" then
      if !has "c" && !has "zca" then some "zihintntl' and `c', or `zihintntl' and `zca" else some "zihintntl"
    else some "c' or `zca"
  | .zihintpause => some "zihintpause"
  | .m => some "m"
  | .zmmul => some "m' or `zmmul"
  | .a => some "a"
  | .zawrs => some "zawrs"
  | .f => some "f"
  | .d => some "d"
  | .q => some "q"
  | .c => some "c' or `zca"
  | .fAndC =>
    if !has "f" then
      if !has "c" && !has "zcf" then some "f' and `c', or `f' and `zcf" else some "f"
    else some "c' or `zcf"
  | .dAndC =>
    if !has "d" then
      if !has "c" && !has "zcd" then some "d' and `c', or `d' and `zcd" else some "d"
    else some "c' or `zcd"
  | .fInx => some "f' or `zfinx"
  | .dInx => some "d' or `zdinx"
  | .qInx => some "q' or `zqinx"
  | .zfhInx => some "zfh' or `zhinx"
  | .zfhmin => some "zfhmin"
  | .zfhminInx => some "zfhmin' or `zhinxmin"
  | .zfhminAndDInx =>
    if has "zfhmin" then some "d"
    else if has "d" then some "zfhmin"
    else if has "zhinxmin" then some "zdinx"
    else if has "zdinx" then some "zhinxmin"
    else some "zfhmin' and `d', or `zhinxmin' and `zdinx"
  | .zfhminAndQInx =>
    if has "zfhmin" then some "q"
    else if has "q" then some "zfhmin"
    else if has "zhinxmin" then some "zqinx"
    else if has "zqinx" then some "zhinxmin"
    else some "zfhmin' and `q', or `zhinxmin' and `zqinx"
  | .zfa => some "zfa"
  | .dAndZfa =>
    if !has "d" && !has "zfa" then some "d' and `zfa" else if !has "d" then some "d" else some "zfa"
  | .qAndZfa =>
    if !has "q" && !has "zfa" then some "q' and `zfa" else if !has "q" then some "q" else some "zfa"
  | .zfhAndZfa =>
    if !has "zfh" && !has "zfa" then some "zfh' and `zfa" else if !has "zfh" then some "zfh" else some "zfa"
  | .zfhOrZvfhAndZfa =>
    if !has "zfa" then
      if !has "zfh" && !has "zvfh" then some "zfh' and `zfa', or `zvfh' and `zfa" else some "zfa"
    else some "zfh' or `zvfh"
  | .zba => some "zba"
  | .zbb => some "zbb"
  | .zbc => some "zbc"
  | .zbs => some "zbs"
  | .zbkb => some "zbkb"
  | .zbkc => some "zbkc"
  | .zbkx => some "zbkx"
  | .zbbOrZbkb => some "zbb' or `zbkb"
  | .zbcOrZbkc => some "zbc' or `zbkc"
  | .zknd => some "zknd"
  | .zkne => some "zkne"
  | .zknh => some "zknh"
  | .zkndOrZkne => some "zknd' or `zkne"
  | .zksed => some "zksed"
  | .zksh => some "zksh"
  | .v => some "v' or `zve64x' or `zve32x"
  | .zvef => some "v' or `zve64d' or `zve64f' or `zve32f"
  | .zvbb => some "zvbb"
  | .zvbc => some "zvbc"
  | .zvkb => some "zvkb"
  | .zvkg => some "zvkg"
  | .zvkned => some "zvkned"
  | .zvknhaOrZvknhb => some "zvknha' or `zvknhb"
  | .zvksed => some "zvksed"
  | .zvksh => some "zvksh"
  | .zcb => some "zcb"
  | .zcbAndZba => some "zcb' and `zba"
  | .zcbAndZbb => some "zcb' and `zbb"
  | .zcbAndZmmul => some "zcb' and `zmmul', or `zcb' and `m"
  | .svinval => some "svinval"
  | .h => some "h"
  | .xcvmac => some "xcvmac"
  | .xcvalu => some "xcvalu"
  | .xtheadba => some "xtheadba"
  | .xtheadbb => some "xtheadbb"
  | .xtheadbs => some "xtheadbs"
  | .xtheadcmo => some "xtheadcmo"
  | .xtheadcondmov => some "xtheadcondmov"
  | .xtheadfmemidx => some "xtheadfmemidx"
  | .xtheadfmv => some "xtheadfmv"
  | .xtheadint => some "xtheadint"
  | .xtheadmac => some "xtheadmac"
  | .xtheadmemidx => some "xtheadmemidx"
  | .xtheadmempair => some "xtheadmempair"
  | .xtheadsync => some "xtheadsync"
  | .xtheadvector => some "xtheadvector"
  | .xtheadzvamo => some "xtheadzvamo"
  | _ => none

/-- What both switches report for a class that they do not list. -/
def unreachableClass : String := "internal: unreachable INSN_CLASS_*"

/-- `riscv_subset_supports`. -/
def riscvSubsetSupports (l : SubsetList) (feature : String) : Bool := l.supports feature.toList

/-- `riscv_multi_subset_supports`, and what is reported. -/
def riscvMultiSubsetSupports (l : SubsetList) (insnClass : InsnClass) : Bool × List String :=
  match requirement insnClass with
  | some r => (r.holds (riscvSubsetSupports l), [])
  | none => (false, [unreachableClass])

/-- `riscv_multi_subset_supports_ext`, and what is reported. -/
def riscvMultiSubsetSupportsExt (l : SubsetList) (insnClass : InsnClass) : Option String × List String :=
  match missingExt (riscvSubsetSupports l) insnClass with
  | some text => (some text, [])
  | none => (none, [unreachableClass])

/-! ## Reading the hint -/

/-- The words of a hint, without quotes and commas. -/
def hintWords (text : String) : List (List Char) :=
  (text.toList.splitOnP (· = ' ')).map fun word => word.filter fun c => c ∉ "'`,".toList

/-- The sets of extensions a hint offers: `or` stands between them, `and` between their members. -/
def hintAlternatives (text : String) : List (List Name) :=
  ((hintWords text).splitOnP (· = "or".toList)).map fun words => words.filter (· ≠ "and".toList)

/-! ## What a hint leads to -/

/-- The list with the extensions in it, each with some version. -/
def addAll (versions : Name → Int × Int) (names : List Name) (l : SubsetList) : SubsetList :=
  names.foldl (fun l n => riscvAddSubset l n (versions n).1 (versions n).2) l

/-- The state with the extensions and all that they imply. -/
def withExtensions (rps : Rps) (versions : Name → Int × Int) (names : List Name) (st : ParseState) : ParseState :=
  riscvParseAddImplicitSubsets rps { st with list := addAll versions names st.list }

/-- A missing class gets a hint, and whatever the hint offers makes the class supported. -/
def HintRight (rps : Rps) (st : ParseState) (insnClass : InsnClass) : Prop :=
  (riscvMultiSubsetSupports st.list insnClass).1 = false →
    ∃ text, riscvMultiSubsetSupportsExt st.list insnClass = (some text, []) ∧ hintAlternatives text ≠ [] ∧
      ∀ names ∈ hintAlternatives text, names ≠ [] ∧ ∀ versions,
        (riscvMultiSubsetSupports (withExtensions rps versions names st).list insnClass).1 = true

/-- A class that is supported stays so in every list with the same extensions and more. -/
def NeverLost (l : SubsetList) (insnClass : InsnClass) : Prop :=
  ∀ l' : SubsetList, l'.Stored → (∀ s ∈ l.nodes, ∃ t ∈ l'.nodes, t.name = s.name) →
    (riscvMultiSubsetSupports l insnClass).1 = true → (riscvMultiSubsetSupports l' insnClass).1 = true

/-! ## The switches agree -/

/-- Together with the subsets that are there, the names make the formula hold; `m` brings `zmmul`. -/
def covers (r : Positive String) (present : List String) (names : List Name) : Bool :=
  names ≠ [] && names.all (GoodName ·) && r.holds fun feature =>
    present.contains feature || names.contains feature.toList ||
      (feature.toList = "zmmul".toList && names.contains "m".toList)

/-- The hint for a class when these of its subsets are present. -/
def hintCovers (r : Positive String) (insnClass : InsnClass) (present : List String) : Bool :=
  match missingExt (present.contains ·) insnClass with
  | none => false
  | some text => hintAlternatives text ≠ [] && (hintAlternatives text).all (covers r present)

/-- A class has the right hint, whichever of its subsets are present. -/
def hintListed (insnClass : InsnClass) : Bool :=
  match requirement insnClass with
  | none => false
  | some r => r.atoms.sublists.all fun present =>
      r.holds (present.contains ·) || hintCovers r insnClass present

/-- The subsets a class asks for are names that lists tell apart. -/
def atomsGood (insnClass : InsnClass) : Bool :=
  match requirement insnClass with
  | none => true
  | some r => r.atoms.all fun feature => GoodName feature.toList

theorem classes_checked (insnClass : InsnClass) :
    (insnClass = .none ∨ insnClass = .xventanacondops ∨ insnClass = .xsfvcp ∨ hintListed insnClass = true) ∧
      atomsGood insnClass = true := by
  cases insnClass <;> decide +kernel

theorem hintListed_eq_true {insnClass : InsnClass} (hnone : insnClass ≠ .none)
    (hventana : insnClass ≠ .xventanacondops) (hsifive : insnClass ≠ .xsfvcp) : hintListed insnClass = true := by
  rcases (classes_checked insnClass).1 with h | h | h | h
  · exact absurd h hnone
  · exact absurd h hventana
  · exact absurd h hsifive
  · exact h

theorem atomsGood_eq_true (insnClass : InsnClass) : atomsGood insnClass = true := (classes_checked insnClass).2

section Class

variable {insnClass : InsnClass} {r : Positive String}

theorem goodName_of_mem_atoms (hr : requirement insnClass = some r) {feature : String} (hmem : feature ∈ r.atoms) :
    GoodName feature.toList := by
  have hall := atomsGood_eq_true insnClass
  rw [atomsGood, hr] at hall
  exact of_decide_eq_true (List.all_eq_true.mp hall feature hmem)

/-- The hint is chosen by the subsets that the class asks for. -/
theorem missingExt_congr {has has' : String → Bool} (hr : requirement insnClass = some r)
    (h : ∀ feature ∈ r.atoms, has feature = has' feature) : missingExt has insnClass = missingExt has' insnClass := by
  cases insnClass
  case zihintntlAndC | fAndC | dAndC | zfhminAndDInx | zfhminAndQInx | dAndZfa | qAndZfa | zfhAndZfa |
      zfhOrZvfhAndZfa =>
    cases hr
    simp only [Positive.atoms, List.forall_mem_append, List.forall_mem_singleton] at h
    unfold missingExt
    simp only [h]
  all_goals rfl

variable {l l' : SubsetList}

theorem riscvMultiSubsetSupports_eq (hr : requirement insnClass = some r) :
    riscvMultiSubsetSupports l insnClass = (r.holds (riscvSubsetSupports l), []) := by
  rw [riscvMultiSubsetSupports, hr]

/-- An extension is there if one is that differs only in case. -/
theorem riscvSubsetSupports_iff (hl : l.Stored) {feature : String} (hgood : GoodName feature.toList) :
    riscvSubsetSupports l feature = true ↔ ∃ s ∈ l.nodes, lowered s.name = feature.toList := by
  have hsame : riscvSubsetSupports l feature = l.lowered.supports feature.toList := by
    unfold riscvSubsetSupports SubsetList.supports
    rw [find_lowered hl.toWf, Option.isSome_map]
  rw [hsame, hl.lowered.supports_iff hgood]
  constructor
  · rintro ⟨t, ht, hname⟩
    obtain ⟨s, hs, rfl⟩ := List.mem_map.mp ht
    exact ⟨s, hs, hname⟩
  · rintro ⟨s, hs, hname⟩
    exact ⟨s.lowered, List.mem_map_of_mem hs, hname⟩

theorem riscvSubsetSupports_mono (hl : l.Stored) (hl' : l'.Stored)
    (h : ∀ s ∈ l.nodes, ∃ t ∈ l'.nodes, t.name = s.name) {feature : String} (hgood : GoodName feature.toList)
    (hhas : riscvSubsetSupports l feature = true) : riscvSubsetSupports l' feature = true := by
  obtain ⟨s, hs, hname⟩ := (riscvSubsetSupports_iff hl hgood).mp hhas
  obtain ⟨t, ht, htname⟩ := h s hs
  exact (riscvSubsetSupports_iff hl' hgood).mpr ⟨t, ht, htname ▸ hname⟩

theorem neverLost (hl : l.Stored) (insnClass : InsnClass) : NeverLost l insnClass := by
  intro l' hl' hmore hhas
  cases hr : requirement insnClass with
  | none =>
    rw [riscvMultiSubsetSupports, hr] at hhas
    cases hhas
  | some r =>
    rw [riscvMultiSubsetSupports_eq hr] at hhas ⊢
    exact Positive.holds_mono
      (fun feature hmem => riscvSubsetSupports_mono hl hl' hmore (goodName_of_mem_atoms hr hmem)) hhas

end Class

/-! ## Following the hint -/

section Added

variable {rps : Rps} {versions : Name → Int × Int} {names : List Name} {st : ParseState}

theorem addAll_spec {l : SubsetList} (hl : l.Stored) (hnames : ∀ n ∈ names, GoodName n) :
    (addAll versions names l).Stored ∧ (∀ s ∈ l.nodes, s ∈ (addAll versions names l).nodes) ∧
      ∀ n ∈ names, ∃ s ∈ (addAll versions names l).nodes, lowered s.name = n := by
  induction names generalizing l with
  | nil => exact ⟨hl, fun _ hs => hs, by simp⟩
  | cons n names ih =>
    have hgood := hnames n List.mem_cons_self
    obtain ⟨hparsed, hkept, hadded⟩ :=
      ih (hl.add (.inl hgood.parsed) (versions n).1 (versions n).2) fun m hm => hnames m (List.mem_cons_of_mem n hm)
    refine ⟨hparsed, fun s hs => hkept s (mem_add_of_mem hl.toWf _ _ _ hs), ?_⟩
    intro m hm
    rcases List.mem_cons.mp hm with rfl | hm
    · cases hentry : entry m l.nodes with
      | none => exact ⟨_, hkept _ (mem_add_self hl.toWf _ _ hentry), hgood.parsed.lowered_eq⟩
      | some s =>
        have heq := entry_compare hentry
        rw [← compare_lowered] at heq
        have hlower := (hl.names s (entry_mem hentry)).lowered
        exact ⟨s, hkept s (mem_add_of_mem hl.toWf _ _ _ (entry_mem hentry)),
          (hgood.eq_of_compare hlower (OrientedCmp.eq_symm heq)).symm⟩
    · exact hadded m hm

/-- What is in the list in the end: what was there, what was added, and with `m` also `zmmul`. -/
structure Extended (l : SubsetList) (names : List Name) (l' : SubsetList) : Prop where
  stored : l'.Stored
  kept : ∀ s ∈ l.nodes, s ∈ l'.nodes
  added : ∀ n ∈ names, ∃ s ∈ l'.nodes, lowered s.name = n
  zmmul : "m".toList ∈ names → ∃ s ∈ l'.nodes, lowered s.name = "zmmul".toList

theorem withExtensions_extended (hl : st.list.Stored) (hnames : ∀ n ∈ names, GoodName n) :
    Extended st.list names (withExtensions rps versions names st).list := by
  obtain ⟨hstored, hkept, hadded⟩ := @addAll_spec versions names _ hl hnames
  set st' : ParseState := { st with list := addAll versions names st.list } with hst'
  obtain ⟨hlower, hextends⟩ := @addImplicitSubsets_lowered rps _ st' riscvImplicitSubsets_good hstored
  have hclosure := (riscvParseAddImplicitSubsets_least rps st'.lowered hstored.lowered).2.1
  rw [riscvParseAddImplicitSubsets, hlower] at hclosure
  refine ⟨hextends.stored, fun s hs => hextends.kept s (hkept s hs), ?_, ?_⟩
  · intro n hn
    obtain ⟨s, hs, hname⟩ := hadded n hn
    exact ⟨s, hextends.kept s hs, hname⟩
  · intro hm
    obtain ⟨s, hs, hname⟩ := hadded _ hm
    obtain ⟨t, ht, htname⟩ := hclosure.closed (implies "m" "zmmul") (by decide) s.lowered
      (List.mem_map_of_mem (hextends.kept s hs)) hname rfl
    obtain ⟨u, hu, rfl⟩ := List.mem_map.mp ht
    exact ⟨u, hu, htname⟩

variable {insnClass : InsnClass} {r : Positive String} {present : List String}

/-- With what a hint offers the formula holds. -/
theorem Extended.holds {l l' : SubsetList} (h : Extended l names l') (hr : requirement insnClass = some r)
    (hl : l.Stored) (hpresent : ∀ feature ∈ present, riscvSubsetSupports l feature = true)
    (hcovers : covers r present names = true) : r.holds (riscvSubsetSupports l') = true := by
  rw [covers, Bool.and_eq_true, Bool.and_eq_true] at hcovers
  refine Positive.holds_mono ?_ hcovers.2
  intro feature hmem hhas
  have hgood := goodName_of_mem_atoms hr hmem
  simp only [Bool.or_eq_true, Bool.and_eq_true, List.contains_iff_mem, decide_eq_true_eq] at hhas
  rcases hhas with (hpres | hname) | ⟨hzmmul, hm⟩
  · exact riscvSubsetSupports_mono hl h.stored (fun s hs => ⟨s, h.kept s hs, rfl⟩) hgood (hpresent feature hpres)
  · exact (riscvSubsetSupports_iff h.stored hgood).mpr (h.added _ hname)
  · exact (riscvSubsetSupports_iff h.stored hgood).mpr (hzmmul ▸ h.zmmul hm)

/-- A class that both switches list gets the right hint. -/
theorem hintRight_of_listed (hl : st.list.Stored) (hlisted : hintListed insnClass = true) :
    HintRight rps st insnClass := by
  intro hmissing
  unfold hintListed at hlisted
  cases hr : requirement insnClass with
  | none =>
    rw [hr] at hlisted
    cases hlisted
  | some r =>
    rw [riscvMultiSubsetSupports_eq hr] at hmissing
    dsimp only at hmissing
    simp only [hr, List.all_eq_true, Bool.or_eq_true] at hlisted
    -- the subsets of the class that are present
    set present := r.atoms.filter (riscvSubsetSupports st.list) with hpresent
    have hsame : ∀ feature ∈ r.atoms, present.contains feature = riscvSubsetSupports st.list feature := by
      intro feature hmem
      rw [Bool.eq_iff_iff, List.contains_iff_mem, hpresent, List.mem_filter]
      exact and_iff_right hmem
    rcases hlisted present (List.mem_sublists.mpr List.filter_sublist) with hholds | hcovers
    · rw [Positive.holds_congr hsame, hmissing] at hholds
      cases hholds
    · rw [hintCovers, missingExt_congr hr hsame] at hcovers
      cases htext : missingExt (riscvSubsetSupports st.list) insnClass with
      | none =>
        rw [htext] at hcovers
        cases hcovers
      | some text =>
        simp only [htext, Bool.and_eq_true, decide_eq_true_eq, List.all_eq_true] at hcovers
        refine ⟨text, by rw [riscvMultiSubsetSupportsExt, htext], hcovers.1, fun names hnames => ?_⟩
        have hcover := hcovers.2 names hnames
        have hparts := hcover
        rw [covers, Bool.and_eq_true, Bool.and_eq_true, decide_eq_true_eq, List.all_eq_true] at hparts
        refine ⟨hparts.1.1, fun versions => ?_⟩
        rw [riscvMultiSubsetSupports_eq hr]
        have hgood : ∀ n ∈ names, GoodName n := fun n hn => of_decide_eq_true (hparts.1.2 n hn)
        exact (withExtensions_extended hl hgood).holds hr hl (fun feature hmem => (List.mem_filter.mp hmem).2) hcover

/-- The two classes that only the first switch lists have no hint. -/
theorem hintRight_unlisted_iff (hl : st.list.Stored) {feature : String}
    (hr : requirement insnClass = some (.atom feature))
    (hnone : missingExt (riscvSubsetSupports st.list) insnClass = none) :
    HintRight rps st insnClass ↔ ∃ s ∈ st.list.nodes, lowered s.name = feature.toList := by
  have hgood : GoodName feature.toList := goodName_of_mem_atoms hr (List.mem_singleton_self feature)
  rw [← riscvSubsetSupports_iff hl hgood]
  unfold HintRight
  rw [riscvMultiSubsetSupports_eq hr, riscvMultiSubsetSupportsExt, hnone]
  constructor
  · intro h
    by_contra hmissing
    rw [Bool.not_eq_true] at hmissing
    obtain ⟨text, htext, -⟩ := h hmissing
    cases htext
  · intro h hmissing
    rw [show (Positive.atom feature).holds (riscvSubsetSupports st.list) = true from h] at hmissing
    cases hmissing

/-- A row that has a class. -/
def classed : RiscvOpcodeRow → Bool
  | ⟨_, _, insnClass, _, _, _, _, _⟩ => insnClass ≠ .none

theorem requirement_ne_none : ∀ op ∈ riscvOpcodes, op.insnClass ≠ .none := by
  have hall : riscvOpcodes.all classed = true := by decide +kernel
  intro op hop
  exact of_decide_eq_true (List.all_eq_true.mp hall op hop)

/-- The hint is right, and no extension takes a class away, for every class of the table but the two that the
second switch does not list; these need to be supported already. -/
theorem hintRight_iff (rps : Rps) (st : ParseState) (hl : st.list.Stored) (insnClass : InsnClass)
    (hused : ∃ op ∈ riscvOpcodes, op.insnClass = insnClass) :
    (HintRight rps st insnClass ∧ NeverLost st.list insnClass) ↔
      (insnClass = .xventanacondops → ∃ s ∈ st.list.nodes, lowered s.name = "xventanacondops".toList) ∧
      (insnClass = .xsfvcp → ∃ s ∈ st.list.nodes, lowered s.name = "xsfvcp".toList) := by
  rw [and_iff_left (neverLost hl insnClass)]
  by_cases hventana : insnClass = .xventanacondops
  · subst hventana
    rw [hintRight_unlisted_iff hl rfl rfl]
    simp
  by_cases hsifive : insnClass = .xsfvcp
  · subst hsifive
    rw [hintRight_unlisted_iff hl rfl rfl]
    simp
  · obtain ⟨op, hop, rfl⟩ := hused
    have hright := @hintRight_of_listed rps st op.insnClass hl
      (hintListed_eq_true (requirement_ne_none op hop) hventana hsifive)
    simp [hventana, hsifive, hright]

/-- A list without the extensions of the two classes. -/
def baseState : ParseState := { list := riscvAddSubset {} ['i'] 2 1, xlen := 64 }

theorem baseState_parsed : baseState.list.Parsed := SubsetList.Parsed.nil.add (by decide) 2 1

/-- `vt.maskc` is in the table, and without its extension there is an internal error in place of a hint. -/
theorem ventana_no_hint :
    (∃ op ∈ riscvOpcodes, op.name = "vt.maskc" ∧ op.insnClass = .xventanacondops) ∧
      riscvMultiSubsetSupports baseState.list .xventanacondops = (false, []) ∧
      riscvMultiSubsetSupportsExt baseState.list .xventanacondops = (none, [unreachableClass]) ∧
      ¬ HintRight ⟨some .draft, true⟩ baseState .xventanacondops := by
  have hmissing : riscvMultiSubsetSupports baseState.list .xventanacondops = (false, []) := by decide +kernel
  refine ⟨?_, hmissing, rfl, ?_⟩
  · have hrow : ∃ op ∈ ventanaInsns, op.name = "vt.maskc" ∧ op.insnClass = .xventanacondops := by decide +kernel
    obtain ⟨op, hop, hboth⟩ := hrow
    exact ⟨op, List.mem_append_left _ (List.mem_append_right _ hop), hboth⟩
  · intro h
    obtain ⟨text, htext, -⟩ := h (congrArg Prod.fst hmissing)
    cases htext

theorem zihintntlAndC_used : ∃ op ∈ riscvOpcodes, op.insnClass = .zihintntlAndC := by
  decide +kernel

/-- The hint for a compressed hint instruction on the same list. -/
theorem zihintntl_hintRight : HintRight ⟨some .draft, true⟩ baseState .zihintntlAndC ∧
    NeverLost baseState.list .zihintntlAndC :=
  (hintRight_iff ⟨some .draft, true⟩ baseState baseState_parsed.stored .zihintntlAndC zihintntlAndC_used).mpr
    ⟨by simp, by simp⟩

end Added

end RiscvBinutils.Isa
