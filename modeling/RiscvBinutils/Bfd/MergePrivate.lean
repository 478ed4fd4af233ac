/-
Attributes and header flags of a whole link (bfd/elfnn-riscv.c, `riscv_merge_attributes` and
`_bfd_riscv_elf_merge_private_bfd_data`): when the order of the objects does not matter.
The objects have no attributes other than those of RISC-V, so that merging `Tag_compatibility` and the unknown
tags does nothing.
-/
import RiscvBinutils.Isa.MergeOrder

namespace RiscvBinutils.Bfd

/-! ## Privileged specs -/

/-- `enum riscv_spec_class`, the part for the privileged specs. -/
inductive PrivSpecClass
  | none | v1p9p1 | v1p10 | v1p11 | v1p12
  deriving DecidableEq, Repr

/-- The classes compare as the numbers of the enumeration. -/
def PrivSpecClass.rank : PrivSpecClass → Nat
  | .none => 5
  | .v1p9p1 => 6
  | .v1p10 => 7
  | .v1p11 => 8
  | .v1p12 => 9

/-- `Tag_RISCV_priv_spec`, `Tag_RISCV_priv_spec_minor` and `Tag_RISCV_priv_spec_revision`. -/
structure PrivSpec where
  major : BitVec 32
  minor : BitVec 32
  revision : BitVec 32
  deriving DecidableEq, Repr

def riscvPrivSpecs : List (List Char × PrivSpecClass) :=
  [("1.9.1".toList, .v1p9p1), ("1.10".toList, .v1p10), ("1.11".toList, .v1p11), ("1.12".toList, .v1p12)]

/-- The name that `snprintf` makes of the numbers. -/
def PrivSpec.name (p : PrivSpec) : List Char :=
  let text := Nat.toDigits 10 p.major.toNat ++ '.' :: Nat.toDigits 10 p.minor.toNat
  if p.revision ≠ 0 then text ++ '.' :: Nat.toDigits 10 p.revision.toNat else text

/-- `riscv_get_priv_spec_class_from_numbers`; the class stays as it is if the name is not in the table. -/
def riscvGetPrivSpecClassFromNumbers (p : PrivSpec) (cls : PrivSpecClass) : PrivSpecClass :=
  match riscvPrivSpecs.find? fun s => s.1 = p.name with
  | some s => s.2
  | none => cls

/-- The class of an attribute. -/
def PrivSpec.cls (p : PrivSpec) : PrivSpecClass := riscvGetPrivSpecClassFromNumbers p .none

section PrivSpec

theorem toDigits_inj {m n : Nat} (h : Nat.toDigits 10 m = Nat.toDigits 10 n) : m = n := by
  rw [← Nat.ofDigitChars_toDigits (by decide : 1 < 10) (by decide) (n := m), h,
    Nat.ofDigitChars_toDigits (by decide) (by decide)]

/-- A number is read up to the dot behind it. -/
theorem toDigits_append_inj {m n : Nat} {xs ys : List Char} (hxs : xs.head?.all (· = '.'))
    (hys : ys.head?.all (· = '.'))
    (h : Nat.toDigits 10 m ++ xs = Nat.toDigits 10 n ++ ys) : m = n ∧ xs = ys := by
  have htake (k : Nat) {zs : List Char} (hzs : zs.head?.all (· = '.')) :
      (Nat.toDigits 10 k ++ zs).takeWhile (· ≠ '.') = Nat.toDigits 10 k := by
    rw [List.takeWhile_append_of_pos]
    · cases zs with
      | nil => simp
      | cons z zs => simp_all
    · intro c hc
      have hdigit := Nat.isDigit_of_mem_toDigits (by decide) (by decide) hc
      rw [decide_eq_true_iff]
      rintro rfl
      exact absurd hdigit (by decide)
  have hdigits : Nat.toDigits 10 m = Nat.toDigits 10 n := by rw [← htake m hxs, h, htake n hys]
  rw [hdigits] at h
  exact ⟨toDigits_inj hdigits, List.append_cancel_left h⟩

theorem PrivSpec.name_inj {p q : PrivSpec} (h : p.name = q.name) : p = q := by
  have hname (p : PrivSpec) : p.name = Nat.toDigits 10 p.major.toNat ++ ('.' :: (Nat.toDigits 10 p.minor.toNat ++
      if p.revision ≠ 0 then '.' :: Nat.toDigits 10 p.revision.toNat else [])) := by
    unfold PrivSpec.name
    split <;> simp
  have hdot (v : BitVec 32) : (if v ≠ 0 then '.' :: Nat.toDigits 10 v.toNat else []).head?.all (· = '.') = true := by
    split <;> simp
  rw [hname, hname] at h
  obtain ⟨hmajor, hrest⟩ := toDigits_append_inj (by simp) (by simp) h
  obtain ⟨hminor, hrest⟩ := toDigits_append_inj (hdot _) (hdot _) (List.cons.inj hrest).2
  have hrevision : p.revision = q.revision := by
    split at hrest
    · split at hrest
      · exact BitVec.eq_of_toNat_eq (toDigits_inj (List.cons.inj hrest).2)
      · cases hrest
    · rename_i hp
      split at hrest
      · cases hrest
      · rename_i hq
        rw [not_not.mp hp, not_not.mp hq]
  obtain ⟨major, minor, revision⟩ := p
  obtain ⟨major', minor', revision'⟩ := q
  rw [PrivSpec.mk.injEq]
  exact ⟨BitVec.eq_of_toNat_eq hmajor, BitVec.eq_of_toNat_eq hminor, hrevision⟩

/-- A class that is recognised stands for one triple. -/
theorem PrivSpec.eq_of_cls {p q : PrivSpec} (h : p.cls = q.cls) (hp : p.cls ≠ .none) : p = q := by
  have hentry {p : PrivSpec} (hp : p.cls ≠ .none) : ∃ s ∈ riscvPrivSpecs, s.1 = p.name ∧ p.cls = s.2 := by
    unfold PrivSpec.cls riscvGetPrivSpecClassFromNumbers at hp ⊢
    cases hfind : riscvPrivSpecs.find? fun s => s.1 = p.name with
    | none =>
      rw [hfind] at hp
      exact absurd rfl hp
    | some s =>
      exact ⟨s, List.mem_of_find?_eq_some hfind, by simpa using List.find?_some hfind, rfl⟩
  obtain ⟨s, hs, hname, hcls⟩ := hentry hp
  obtain ⟨t, ht, hname', hcls'⟩ := hentry (h ▸ hp)
  have hunique : ∀ s ∈ riscvPrivSpecs, ∀ t ∈ riscvPrivSpecs, s.2 = t.2 → s.1 = t.1 := by decide
  apply PrivSpec.name_inj
  rw [← hname, ← hname', hunique s hs t ht (by rw [← hcls, ← hcls', h])]

theorem PrivSpecClass.rank_inj {c d : PrivSpecClass} (h : c.rank = d.rank) : c = d := by
  cases c <;> cases d <;> first | rfl | cases h

end PrivSpec

/-! ## Objects -/

/-- The RISC-V attributes of an object; zero stands for an absent one. -/
structure ObjAttrs where
  stackAlign : BitVec 32 := 0
  arch : Option (List Char) := none
  unalignedAccess : BitVec 32 := 0
  priv : PrivSpec := ⟨0, 0, 0⟩
  deriving DecidableEq, Repr

/-- `SEC_LOAD`, `SEC_CODE` and `SEC_HAS_CONTENTS` of a section. -/
structure SectionKind where
  load : Bool
  code : Bool
  hasContents : Bool
  deriving DecidableEq, Repr

/-- An input object; `attrs` is `none` if it has no section of attributes. -/
structure InputBfd where
  riscvElf : Bool := true
  target : List Char
  linkerCreated : Bool := false
  dynamic : Bool := false
  sections : List SectionKind
  attrs : Option ObjAttrs
  eFlags : BitVec 32
  deriving DecidableEq, Repr

/-- The output: `initialized` is its `Tag_null`, `flagsInit` its `elf_flags_init`. -/
structure OutputBfd where
  target : List Char
  initialized : Bool := false
  stackAlign : BitVec 32 := 0
  arch : Isa.LinkState := {}
  unalignedAccess : BitVec 32 := 0
  priv : PrivSpec := ⟨0, 0, 0⟩
  flagsInit : Bool := false
  eFlags : BitVec 32 := 0
  deriving DecidableEq, Repr

/-! ## Merging one object -/

/-- The case for `Tag_RISCV_arch`, and whether it merges. -/
def mergeArch (archSize : Nat) (st : Isa.LinkState) : Option (List Char) → Isa.LinkState × Bool
  | none => (st, true)
  | some inArch =>
    let st' := Isa.riscvMergeAttributes archSize { st with failed := false } inArch
    ({ st' with failed := st.failed || st'.failed }, !st'.failed && !st'.crashed)

/-- The case for the privileged spec. -/
def mergePriv (out input : PrivSpec) : PrivSpec :=
  if out.cls = .none then input
  else if input.cls ≠ .none ∧ input.cls ≠ out.cls then
    -- only warned about; the newest is taken
    if out.cls.rank < input.cls.rank then input else out
  else out

/-- The case for `Tag_RISCV_stack_align`, and whether it merges. -/
def mergeStackAlign (out input : BitVec 32) : BitVec 32 × Bool :=
  if out = 0 then (input, true)
  else if input ≠ 0 ∧ out ≠ 0 ∧ out ≠ input then (out, false)
  else (out, true)

/-- `_bfd_elf_copy_obj_attributes` into an output that has none yet. -/
def copyObjAttributes (out : OutputBfd) (a : ObjAttrs) : OutputBfd :=
  { out with
    stackAlign := a.stackAlign
    arch := match a.arch with
      | none | some [] => out.arch
      | some s => { out.arch with out := some s }
    unalignedAccess := a.unalignedAccess
    priv := a.priv }

/-- `riscv_merge_attributes`. -/
def riscvMergeAttributes (archSize : Nat) (out : OutputBfd) (input : InputBfd) : OutputBfd × Bool :=
  if input.linkerCreated then (out, true)
  else
    match input.attrs with
    | none => (out, true)
    | some a =>
      if out.initialized = false then ({ copyObjAttributes out a with initialized := true }, true)
      else
        let stack := mergeStackAlign out.stackAlign a.stackAlign
        let arch := mergeArch archSize out.arch a.arch
        ({ out with
            stackAlign := stack.1
            arch := arch.1
            unalignedAccess := out.unalignedAccess ||| a.unalignedAccess
            priv := mergePriv out.priv a.priv },
          stack.2 && arch.2)

def efRiscvRvc : BitVec 32 := 0x1
def efRiscvFloatAbi : BitVec 32 := 0x6
def efRiscvRve : BitVec 32 := 0x8
def efRiscvTso : BitVec 32 := 0x10

/-- `null_input_bfd || only_data_sections`. -/
def InputBfd.noCode (input : InputBfd) : Bool := input.sections.all fun s => !(s.load && s.code && s.hasContents)

/-- The part of `_bfd_riscv_elf_merge_private_bfd_data` for the header flags. -/
def mergeFlags (out : OutputBfd) (input : InputBfd) : OutputBfd × Bool :=
  if input.dynamic = false ∧ input.noCode then (out, true)
  else if out.flagsInit = false then ({ out with flagsInit := true, eFlags := input.eFlags }, true)
  else if (out.eFlags ^^^ input.eFlags) &&& efRiscvFloatAbi ≠ 0 then (out, false)
  else if (out.eFlags ^^^ input.eFlags) &&& efRiscvRve ≠ 0 then (out, false)
  else ({ out with eFlags := out.eFlags ||| (input.eFlags &&& efRiscvRvc) ||| (input.eFlags &&& efRiscvTso) }, true)

/-- `_bfd_riscv_elf_merge_private_bfd_data`, into an output that is RISC-V ELF. -/
def riscvElfMergePrivateBfdData (archSize : Nat) (out : OutputBfd) (input : InputBfd) : OutputBfd × Bool :=
  if input.riscvElf = false then (out, true)
  else if input.target ≠ out.target then (out, false)
  else
    let r := riscvMergeAttributes archSize out input
    if r.2 = false then (r.1, false) else mergeFlags r.1 input

/-- Merge all objects into the output, and whether none of them is reported to be incompatible. -/
def mergeObjects (archSize : Nat) (st : OutputBfd × Bool) : List InputBfd → OutputBfd × Bool
  | [] => st
  | input :: rest =>
    let r := riscvElfMergePrivateBfdData archSize st.1 input
    mergeObjects archSize (r.1, st.2 && r.2) rest

/-- The link of all objects for a target. -/
def linkObjects (archSize : Nat) (target : List Char) (inputs : List InputBfd) : OutputBfd × Bool :=
  mergeObjects archSize ({ target }, true) inputs

/-! ## The order of the objects -/

/-- An object of the target with code, with attributes, and with no header flag that is not known. -/
structure Linkable (target : List Char) (input : InputBfd) : Prop where
  riscvElf : input.riscvElf = true
  target : input.target = target
  linkerCreated : input.linkerCreated = false
  attrs : input.attrs.isSome
  code : input.noCode = false
  known : input.eFlags &&& ~~~(efRiscvRvc ||| efRiscvFloatAbi ||| efRiscvRve ||| efRiscvTso) = 0

/-- The attributes of an object that has them. -/
def InputBfd.values (input : InputBfd) : ObjAttrs := input.attrs.getD {}

/-- Two objects that can be linked, whatever comes between them. -/
structure ObjectsAgree (i j : InputBfd) : Prop where
  stackAlign : i.values.stackAlign = 0 ∨ j.values.stackAlign = 0 ∨ i.values.stackAlign = j.values.stackAlign
  floatAbi : (i.eFlags ^^^ j.eFlags) &&& efRiscvFloatAbi = 0
  rve : (i.eFlags ^^^ j.eFlags) &&& efRiscvRve = 0

/-- The output of a link of the objects, the last one first. -/
structure MergedObjects (inputs : List InputBfd) (out : OutputBfd) : Prop where
  nonempty : inputs ≠ []
  initialized : out.initialized = true
  flagsInit : out.flagsInit = true
  agree : ∀ i ∈ inputs, ∀ j ∈ inputs, ObjectsAgree i j
  stackAlign : ∀ i ∈ inputs, i.values.stackAlign = 0 ∨ i.values.stackAlign = out.stackAlign
  stackAlignFrom : out.stackAlign = 0 ∨ ∃ i ∈ inputs, i.values.stackAlign = out.stackAlign
  unalignedAccess : ∀ k, out.unalignedAccess.getLsbD k = true ↔ ∃ i ∈ inputs, i.values.unalignedAccess.getLsbD k = true
  eFlags : ∀ k, out.eFlags.getLsbD k = true ↔ ∃ i ∈ inputs, i.eFlags.getLsbD k = true
  priv : ∀ i ∈ inputs, i.values.priv.cls.rank ≤ out.priv.cls.rank
  privFrom : ∃ i ∈ inputs, i.values.priv = out.priv
  privLast : out.priv.cls = .none → ∀ i ∈ inputs.head?, i.values.priv = out.priv

section Order

variable {archSize : Nat} {target : List Char} {out : OutputBfd} {input : InputBfd} {inputs : List InputBfd}

theorem ObjectsAgree.symm {i j : InputBfd} (h : ObjectsAgree i j) : ObjectsAgree j i := by
  refine ⟨?_, ?_, ?_⟩
  · rcases h.stackAlign with h | h | h
    · exact .inr (.inl h)
    · exact .inl h
    · exact .inr (.inr h.symm)
  · rw [BitVec.xor_comm]
    exact h.floatAbi
  · rw [BitVec.xor_comm]
    exact h.rve

theorem ObjectsAgree.refl (i : InputBfd) : ObjectsAgree i i := by
  refine ⟨.inr (.inr rfl), ?_, ?_⟩
  · rw [BitVec.xor_self, BitVec.zero_and]
    rfl
  · rw [BitVec.xor_self, BitVec.zero_and]
    rfl

theorem mergePriv_cases (p q : PrivSpec) :
    (mergePriv p q = q ∧ p.cls.rank ≤ q.cls.rank) ∨ (mergePriv p q = p ∧ q.cls.rank ≤ p.cls.rank ∧ p.cls ≠ .none) := by
  have hnone (c : PrivSpecClass) : PrivSpecClass.rank .none ≤ c.rank := by
    cases c <;> decide
  unfold mergePriv
  split
  · rename_i hp
    rw [hp]
    exact .inl ⟨rfl, hnone _⟩
  · rename_i hp
    split
    · split
      · rename_i hlt
        exact .inl ⟨rfl, hlt.le⟩
      · rename_i hlt
        exact .inr ⟨rfl, not_lt.mp hlt, hp⟩
    · rename_i hsame
      refine .inr ⟨rfl, ?_, hp⟩
      by_cases hq : q.cls = .none
      · rw [hq]
        exact hnone _
      · rw [not_not.mp fun hne => hsame ⟨hq, hne⟩]

theorem mergeStackAlign_cases (a b : BitVec 32) :
    ((mergeStackAlign a b).2 = true ∧ (a = 0 ∨ b = 0 ∨ a = b) ∧ (mergeStackAlign a b).1 = if a = 0 then b else a) ∨
      ((mergeStackAlign a b).2 = false ∧ a ≠ 0 ∧ b ≠ 0 ∧ a ≠ b) := by
  unfold mergeStackAlign
  by_cases ha : a = 0
  · rw [if_pos ha, if_pos ha]
    exact .inl ⟨rfl, .inl ha, rfl⟩
  · rw [if_neg ha, if_neg ha]
    split
    · rename_i h
      exact .inr ⟨rfl, ha, h.1, h.2.2⟩
    · rename_i h
      refine .inl ⟨rfl, ?_, rfl⟩
      by_contra hnot
      rw [not_or, not_or] at hnot
      exact h ⟨hnot.2.1, ha, hnot.2.2⟩

/-- The header flags that are merged by a bitwise or, those that have to agree, and no others. -/
theorem flag_cases (k : Nat) :
    (efRiscvRvc ||| efRiscvTso).getLsbD k = true ∨ efRiscvFloatAbi.getLsbD k = true ∨ efRiscvRve.getLsbD k = true ∨
      (~~~(efRiscvRvc ||| efRiscvFloatAbi ||| efRiscvRve ||| efRiscvTso)).getLsbD k = true ∨ 32 ≤ k := by
  by_cases hk : k < 32
  · revert k
    decide
  · exact .inr (.inr (.inr (.inr (by omega))))

theorem getLsbD_of_xor_and {a b m : BitVec 32} (h : (a ^^^ b) &&& m = 0) {k : Nat} (hm : m.getLsbD k = true) :
    a.getLsbD k = b.getLsbD k := by
  have hbit := congrArg (BitVec.getLsbD · k) h
  rw [BitVec.getLsbD_and, BitVec.getLsbD_xor, hm, Bool.and_true] at hbit
  simpa using hbit

/-- The flags of the output are those that some object has. -/
theorem mergeFlags_bits
    (hknown : input.eFlags &&& ~~~(efRiscvRvc ||| efRiscvFloatAbi ||| efRiscvRve ||| efRiscvTso) = 0)
    (habi : (out.eFlags ^^^ input.eFlags) &&& efRiscvFloatAbi = 0)
    (hrve : (out.eFlags ^^^ input.eFlags) &&& efRiscvRve = 0) (k : Nat) :
    (out.eFlags ||| (input.eFlags &&& efRiscvRvc) ||| (input.eFlags &&& efRiscvTso)).getLsbD k =
      (out.eFlags.getLsbD k || input.eFlags.getLsbD k) := by
  rw [BitVec.getLsbD_or, BitVec.getLsbD_or, BitVec.getLsbD_and, BitVec.getLsbD_and]
  rcases flag_cases k with h | h | h | h | h
  · rw [BitVec.getLsbD_or, Bool.or_eq_true] at h
    rcases h with h | h
    · cases out.eFlags.getLsbD k <;> cases input.eFlags.getLsbD k <;> simp [h]
    · cases out.eFlags.getLsbD k <;> cases input.eFlags.getLsbD k <;> simp [h]
  · rw [getLsbD_of_xor_and habi h]
    cases input.eFlags.getLsbD k <;> rfl
  · rw [getLsbD_of_xor_and hrve h]
    cases input.eFlags.getLsbD k <;> rfl
  · have hbit := congrArg (BitVec.getLsbD · k) hknown
    rw [BitVec.getLsbD_and, h, Bool.and_true] at hbit
    simp [hbit]
  · rw [BitVec.getLsbD_of_ge _ _ h, BitVec.getLsbD_of_ge _ _ h]
    rfl

/-- The first object is copied. -/
theorem mergeObjects_first (hin : Linkable target input) :
    MergedObjects [input] (riscvElfMergePrivateBfdData archSize { target } input).1 ∧
      (riscvElfMergePrivateBfdData archSize { target } input).2 = true := by
  obtain ⟨a, ha⟩ := Option.isSome_iff_exists.mp hin.attrs
  have hvalues : input.values = a := by rw [InputBfd.values, ha, Option.getD_some]
  have hresult : riscvElfMergePrivateBfdData archSize { target } input =
      ({ copyObjAttributes { target } a with initialized := true, flagsInit := true, eFlags := input.eFlags },
        true) := by
    have hattrs : riscvMergeAttributes archSize { target } input =
        ({ copyObjAttributes { target } a with initialized := true }, true) := by
      rw [riscvMergeAttributes, hin.linkerCreated, if_neg (by decide), ha]
      rfl
    rw [riscvElfMergePrivateBfdData, hin.riscvElf, if_neg (by decide), if_neg (not_not.mpr hin.target), hattrs]
    simp [mergeFlags, hin.code, copyObjAttributes]
  rw [hresult]
  refine ⟨⟨List.cons_ne_nil _ _, rfl, rfl, ?_, ?_, ?_, ?_, ?_, ?_, ?_, ?_⟩, rfl⟩
  · intro i hi j hj
    rw [List.mem_singleton.mp hi, List.mem_singleton.mp hj]
    exact .refl input
  all_goals simp [copyObjAttributes, hvalues]

theorem xor_and_trans {a b c m : BitVec 32} (hab : (a ^^^ b) &&& m = 0) (hbc : (b ^^^ c) &&& m = 0) :
    (a ^^^ c) &&& m = 0 := by
  apply BitVec.eq_of_getLsbD_eq
  intro k hk
  rw [BitVec.getLsbD_and, BitVec.getLsbD_xor]
  cases hm : m.getLsbD k with
  | false => simp
  | true => simp [getLsbD_of_xor_and hab hm, getLsbD_of_xor_and hbc hm]

/-- Flags that agree between the objects are those of the output. -/
theorem MergedObjects.same_flags (h : MergedObjects inputs out) {m : BitVec 32}
    (hagree : ∀ i ∈ inputs, ∀ j ∈ inputs, (i.eFlags ^^^ j.eFlags) &&& m = 0) {i : InputBfd} (hi : i ∈ inputs) :
    (out.eFlags ^^^ i.eFlags) &&& m = 0 := by
  apply BitVec.eq_of_getLsbD_eq
  intro k hk
  rw [BitVec.getLsbD_and, BitVec.getLsbD_xor]
  cases hm : m.getLsbD k with
  | false => simp
  | true =>
    have hsame : out.eFlags.getLsbD k = i.eFlags.getLsbD k := by
      rw [Bool.eq_iff_iff, h.eFlags]
      constructor
      · rintro ⟨j, hj, hbit⟩
        rw [getLsbD_of_xor_and (hagree i hi j hj) hm]
        exact hbit
      · exact fun hbit => ⟨i, hi, hbit⟩
    simp [hsame]

theorem MergedObjects.agree_next (h : MergedObjects inputs out)
    (hstack : out.stackAlign = 0 ∨ input.values.stackAlign = 0 ∨ out.stackAlign = input.values.stackAlign)
    (habi : (out.eFlags ^^^ input.eFlags) &&& efRiscvFloatAbi = 0)
    (hrve : (out.eFlags ^^^ input.eFlags) &&& efRiscvRve = 0) {i : InputBfd} (hi : i ∈ inputs) :
    ObjectsAgree i input := by
  refine ⟨?_, ?_, ?_⟩
  · rcases h.stackAlign i hi with hzero | hsame
    · exact .inl hzero
    · rw [hsame]
      exact hstack
  · have hout := h.same_flags (fun i hi j hj => (h.agree i hi j hj).floatAbi) hi
    rw [BitVec.xor_comm] at hout
    exact xor_and_trans hout habi
  · have hout := h.same_flags (fun i hi j hj => (h.agree i hi j hj).rve) hi
    rw [BitVec.xor_comm] at hout
    exact xor_and_trans hout hrve

/-- The output with one more object that agrees with it. -/
theorem MergedObjects.cons (h : MergedObjects inputs out) {out' : OutputBfd}
    (hknown : input.eFlags &&& ~~~(efRiscvRvc ||| efRiscvFloatAbi ||| efRiscvRve ||| efRiscvTso) = 0)
    (hstack : out.stackAlign = 0 ∨ input.values.stackAlign = 0 ∨ out.stackAlign = input.values.stackAlign)
    (habi : (out.eFlags ^^^ input.eFlags) &&& efRiscvFloatAbi = 0)
    (hrve : (out.eFlags ^^^ input.eFlags) &&& efRiscvRve = 0) (hinit : out'.initialized = out.initialized)
    (hflags : out'.flagsInit = true)
    (hstack' : out'.stackAlign = if out.stackAlign = 0 then input.values.stackAlign else out.stackAlign)
    (hunaligned : out'.unalignedAccess = out.unalignedAccess ||| input.values.unalignedAccess)
    (hpriv : out'.priv = mergePriv out.priv input.values.priv)
    (heflags : out'.eFlags =
      out.eFlags ||| (input.eFlags &&& efRiscvRvc) ||| (input.eFlags &&& efRiscvTso)) :
    MergedObjects (input :: inputs) out' := by
  have hagree {i : InputBfd} (hi : i ∈ inputs) := h.agree_next hstack habi hrve hi
  refine ⟨List.cons_ne_nil _ _, hinit.trans h.initialized, hflags, ?_, ?_, ?_, ?_, ?_, ?_, ?_, ?_⟩
  · rintro i hi j hj
    rcases List.mem_cons.mp hi with rfl | hi'
    · rcases List.mem_cons.mp hj with rfl | hj'
      · exact .refl _
      · exact (hagree hj').symm
    · rcases List.mem_cons.mp hj with rfl | hj'
      · exact hagree hi'
      · exact h.agree i hi' j hj'
  · rw [hstack', List.forall_mem_cons]
    by_cases hzero : out.stackAlign = 0
    · rw [if_pos hzero]
      refine ⟨.inr rfl, fun i hi => .inl ?_⟩
      exact (h.stackAlign i hi).elim id fun hsame => hsame.trans hzero
    · rw [if_neg hzero]
      exact ⟨(hstack.resolve_left hzero).imp id Eq.symm, h.stackAlign⟩
  · rw [hstack']
    by_cases hzero : out.stackAlign = 0
    · rw [if_pos hzero]
      exact .inr ⟨input, List.mem_cons_self, rfl⟩
    · rw [if_neg hzero]
      obtain ⟨i, hi, hsame⟩ := h.stackAlignFrom.resolve_left hzero
      exact .inr ⟨i, List.mem_cons_of_mem _ hi, hsame⟩
  · intro k
    rw [hunaligned, BitVec.getLsbD_or, Bool.or_eq_true, h.unalignedAccess, List.exists_mem_cons_iff, or_comm]
  · intro k
    rw [heflags, mergeFlags_bits hknown habi hrve, Bool.or_eq_true, h.eFlags, List.exists_mem_cons_iff, or_comm]
  · rw [hpriv, List.forall_mem_cons]
    rcases mergePriv_cases out.priv input.values.priv with ⟨hnew, hle⟩ | ⟨hold, hle, -⟩
    · rw [hnew]
      exact ⟨Nat.le_refl _, fun i hi => (h.priv i hi).trans hle⟩
    · rw [hold]
      exact ⟨hle, h.priv⟩
  · rw [hpriv]
    rcases mergePriv_cases out.priv input.values.priv with ⟨hnew, -⟩ | ⟨hold, -⟩
    · rw [hnew]
      exact ⟨input, List.mem_cons_self, rfl⟩
    · rw [hold]
      obtain ⟨i, hi, hsame⟩ := h.privFrom
      exact ⟨i, List.mem_cons_of_mem _ hi, hsame⟩
  · rw [hpriv]
    rcases mergePriv_cases out.priv input.values.priv with ⟨hnew, -⟩ | ⟨hold, -, hknown⟩
    · rw [hnew]
      rintro - i ⟨⟩
      rfl
    · rw [hold]
      exact fun hnone => absurd hnone hknown

/-- The attributes of an object that is not the first. -/
theorem riscvMergeAttributes_next (hinit : out.initialized = true) (hin : Linkable target input) :
    riscvMergeAttributes archSize out input = ({ out with
      stackAlign := (mergeStackAlign out.stackAlign input.values.stackAlign).1
      arch := (mergeArch archSize out.arch input.values.arch).1
      unalignedAccess := out.unalignedAccess ||| input.values.unalignedAccess
      priv := mergePriv out.priv input.values.priv },
      (mergeStackAlign out.stackAlign input.values.stackAlign).2 &&
      (mergeArch archSize out.arch input.values.arch).2) := by
  obtain ⟨a, ha⟩ := Option.isSome_iff_exists.mp hin.attrs
  have hvalues : input.values = a := by rw [InputBfd.values, ha, Option.getD_some]
  rw [riscvMergeAttributes, hin.linkerCreated, if_neg Bool.false_ne_true, ha, hvalues]
  dsimp only
  rw [hinit, if_neg (by decide)]

/-- One more object: either it agrees with all before it and is merged, or it is reported. -/
theorem MergedObjects.step (h : MergedObjects inputs out) (htarget : out.target = target) (hin : Linkable target input)
    (harch : (mergeArch archSize out.arch input.values.arch).2 = true) :
    ((riscvElfMergePrivateBfdData archSize out input).2 = true ∧
        MergedObjects (input :: inputs) (riscvElfMergePrivateBfdData archSize out input).1) ∨
      ((riscvElfMergePrivateBfdData archSize out input).2 = false ∧ ∃ i ∈ inputs, ¬ ObjectsAgree i input) := by
  rw [riscvElfMergePrivateBfdData, hin.riscvElf, if_neg (by decide), htarget, if_neg (not_not.mpr hin.target),
    riscvMergeAttributes_next h.initialized hin, harch, Bool.and_true]
  rcases mergeStackAlign_cases out.stackAlign input.values.stackAlign with
    ⟨hok, hcompat, hstack⟩ | ⟨hbad, hout, hinput, hne⟩
  · dsimp only
    rw [hok, if_neg (by decide), mergeFlags, hin.code, if_neg (by simp)]
    dsimp only
    rw [h.flagsInit, if_neg (by decide)]
    obtain ⟨first, hfirst⟩ := List.exists_mem_of_ne_nil _ h.nonempty
    split
    · rename_i habi
      refine .inr ⟨rfl, first, hfirst, fun hagree => habi ?_⟩
      exact xor_and_trans (h.same_flags (fun i hi j hj => (h.agree i hi j hj).floatAbi) hfirst) hagree.floatAbi
    · rename_i habi
      split
      · rename_i hrve
        refine .inr ⟨rfl, first, hfirst, fun hagree => hrve ?_⟩
        exact xor_and_trans (h.same_flags (fun i hi j hj => (h.agree i hi j hj).rve) hfirst) hagree.rve
      · rename_i hrve
        exact .inl ⟨rfl, h.cons hin.known hcompat (not_not.mp habi) (not_not.mp hrve) rfl rfl hstack rfl rfl rfl⟩
  · rw [hbad, if_pos rfl]
    obtain ⟨i, hi, hstack⟩ := h.stackAlignFrom.resolve_left hout
    refine .inr ⟨rfl, i, hi, fun hagree => ?_⟩
    have hstack' := hagree.stackAlign
    rw [hstack] at hstack'
    exact hstack'.elim hout fun h => h.elim hinput hne

/-! ### Whole links -/

theorem mergeArch_fails {st : Isa.LinkState} (arch : Option (List Char)) :
    (st.Fails → (mergeArch archSize st arch).1.Fails) ∧
      ((mergeArch archSize st arch).2 = false → (mergeArch archSize st arch).1.Fails) := by
  cases arch with
  | none => exact ⟨id, fun h => by cases h⟩
  | some arch =>
    have hcrashed : st.crashed = true →
        (Isa.riscvMergeAttributes archSize { st with failed := false } arch).crashed = true := by
      intro h
      rw [Isa.riscvMergeAttributes, if_pos h]
      exact h
    unfold mergeArch Isa.LinkState.Fails
    dsimp only
    constructor
    · rintro (hfailed | hcrash)
      · exact .inl (by rw [hfailed, Bool.true_or])
      · exact .inr (hcrashed hcrash)
    · intro h
      rw [Bool.and_eq_false_iff, Bool.not_eq_false', Bool.not_eq_false'] at h
      exact h.imp (fun h => by rw [h, Bool.or_true]) id

theorem riscvElfMergePrivateBfdData_frame (out : OutputBfd) (input : InputBfd) :
    (riscvElfMergePrivateBfdData archSize out input).1.target = out.target ∧
      (out.arch.Fails → (riscvElfMergePrivateBfdData archSize out input).1.arch.Fails) := by
  have hattrs : (riscvMergeAttributes archSize out input).1.target = out.target ∧
      (out.arch.Fails → (riscvMergeAttributes archSize out input).1.arch.Fails) := by
    unfold riscvMergeAttributes
    split
    · exact ⟨rfl, id⟩
    · split
      · exact ⟨rfl, id⟩
      · rename_i a _
        split
        · refine ⟨rfl, fun h => ?_⟩
          unfold copyObjAttributes
          dsimp only
          split
          · exact h
          · exact h
          · exact h
        · exact ⟨rfl, (mergeArch_fails a.arch).1⟩
  have hflags (out : OutputBfd) : (mergeFlags out input).1.target = out.target ∧
      (mergeFlags out input).1.arch = out.arch := by
    unfold mergeFlags
    split
    · exact ⟨rfl, rfl⟩
    · split
      · exact ⟨rfl, rfl⟩
      · split
        · exact ⟨rfl, rfl⟩
        · split <;> exact ⟨rfl, rfl⟩
  unfold riscvElfMergePrivateBfdData
  split
  · exact ⟨rfl, id⟩
  · split
    · exact ⟨rfl, id⟩
    · dsimp only
      split
      · exact hattrs
      · rw [(hflags _).1, (hflags _).2]
        exact hattrs

theorem mergeObjects_fails {st : OutputBfd × Bool} (rest : List InputBfd) :
    (st.1.arch.Fails → (mergeObjects archSize st rest).1.arch.Fails) ∧
      (st.2 = false → (mergeObjects archSize st rest).2 = false) := by
  induction rest generalizing st with
  | nil => exact ⟨id, id⟩
  | cons input rest ih =>
    rw [mergeObjects]
    refine ⟨fun h => ih.1 ((riscvElfMergePrivateBfdData_frame st.1 input).2 h), fun h => ih.2 ?_⟩
    rw [h, Bool.false_and]

/-- An architecture that does not merge shows in the output. -/
theorem mergeArch_of_not_fails (hinit : out.initialized = true) (hin : Linkable out.target input)
    (h : ¬ (riscvElfMergePrivateBfdData archSize out input).1.arch.Fails) :
    (mergeArch archSize out.arch input.values.arch).2 = true := by
  rw [← Bool.not_eq_false]
  intro hbad
  apply h
  rw [riscvElfMergePrivateBfdData, hin.riscvElf, if_neg (by decide), if_neg (not_not.mpr hin.target),
    riscvMergeAttributes_next hinit hin, hbad, Bool.and_false, if_pos rfl]
  exact (mergeArch_fails input.values.arch).2 hbad

/-- The rest of a link: all objects agree and are merged, or two of them do not and one is reported. -/
theorem MergedObjects.run {st : OutputBfd × Bool} {rest : List InputBfd} (h : MergedObjects inputs st.1)
    (hok : st.2 = true)
    (htarget : st.1.target = target) (hin : ∀ i ∈ rest, Linkable target i)
    (harch : ¬ (mergeObjects archSize st rest).1.arch.Fails) :
    ((mergeObjects archSize st rest).2 = true ∧
        MergedObjects (rest.reverse ++ inputs) (mergeObjects archSize st rest).1) ∨
      ((mergeObjects archSize st rest).2 = false ∧
        ∃ i ∈ rest.reverse ++ inputs, ∃ j ∈ rest.reverse ++ inputs, ¬ ObjectsAgree i j) := by
  induction rest generalizing inputs st with
  | nil => exact .inl ⟨hok, h⟩
  | cons input rest ih =>
    rw [List.reverse_cons, List.append_assoc, List.singleton_append]
    rw [mergeObjects] at harch ⊢
    obtain ⟨hinput, hrest⟩ := List.forall_mem_cons.mp hin
    have harch' : ¬ (riscvElfMergePrivateBfdData archSize st.1 input).1.arch.Fails :=
      fun hfails => harch ((mergeObjects_fails rest).1 hfails)
    have hmerges := mergeArch_of_not_fails h.initialized (htarget.symm ▸ hinput) harch'
    rcases h.step htarget hinput hmerges with ⟨hgood, hnext⟩ | ⟨hbad, i, hi, hagree⟩
    · refine ih hnext ?_ ((riscvElfMergePrivateBfdData_frame st.1 input).1.trans htarget) hrest harch
      rw [hok, hgood, Bool.true_and]
    · refine .inr ⟨(mergeObjects_fails rest).2 (by rw [hbad, Bool.and_false]), i, ?_, input, ?_, hagree⟩
      · exact List.mem_append_right _ (List.mem_cons_of_mem _ hi)
      · exact List.mem_append_right _ List.mem_cons_self

/-- A whole link, the last object first. -/
theorem linkObjects_cases (hne : inputs ≠ []) (hin : ∀ i ∈ inputs, Linkable target i)
    (harch : ¬ (linkObjects archSize target inputs).1.arch.Fails) :
    ((linkObjects archSize target inputs).2 = true ∧
        MergedObjects inputs.reverse (linkObjects archSize target inputs).1) ∨
      ((linkObjects archSize target inputs).2 = false ∧ ∃ i ∈ inputs, ∃ j ∈ inputs, ¬ ObjectsAgree i j) := by
  cases inputs with
  | nil => exact absurd rfl hne
  | cons first rest =>
    obtain ⟨hfirst, hrest⟩ := List.forall_mem_cons.mp hin
    obtain ⟨hmerged, hok⟩ := @mergeObjects_first archSize _ _ hfirst
    have hstart : linkObjects archSize target (first :: rest) =
        mergeObjects archSize (riscvElfMergePrivateBfdData archSize { target } first) rest := by
      rw [linkObjects, mergeObjects, Bool.true_and]
    rw [hstart] at harch ⊢
    rw [List.reverse_cons]
    refine (hmerged.run hok (riscvElfMergePrivateBfdData_frame _ first).1 hrest harch).imp_right fun ⟨hbad, hpair⟩ => ?_
    obtain ⟨i, hi, j, hj, hagree⟩ := hpair
    have hmem {i : InputBfd} (hi : i ∈ rest.reverse ++ [first]) : i ∈ first :: rest := by
      rw [← List.reverse_cons] at hi
      exact List.mem_reverse.mp hi
    exact ⟨hbad, i, hmem hi, j, hmem hj, hagree⟩

/-- The output is determined by the objects, apart from a privileged spec that is not recognised. -/
theorem MergedObjects.unique {inputs' : List InputBfd} {out' : OutputBfd} (h : MergedObjects inputs out)
    (h' : MergedObjects inputs' out') (hmem : ∀ i, i ∈ inputs ↔ i ∈ inputs') :
    out.eFlags = out'.eFlags ∧ out.stackAlign = out'.stackAlign ∧ out.unalignedAccess = out'.unalignedAccess ∧
      out.priv.cls = out'.priv.cls := by
  have hstack {inputs inputs' : List InputBfd} {out out' : OutputBfd} (h : MergedObjects inputs out)
      (h' : MergedObjects inputs' out') (hmem : ∀ i, i ∈ inputs ↔ i ∈ inputs') (hzero : out.stackAlign ≠ 0) :
      out'.stackAlign = out.stackAlign := by
    obtain ⟨i, hi, hfrom⟩ := h.stackAlignFrom.resolve_left hzero
    rcases h'.stackAlign i ((hmem i).mp hi) with hnone | hsame
    · exact absurd (hfrom.symm.trans hnone) hzero
    · exact hsame.symm.trans hfrom
  have hrank {inputs inputs' : List InputBfd} {out out' : OutputBfd} (h : MergedObjects inputs out)
      (h' : MergedObjects inputs' out') (hmem : ∀ i, i ∈ inputs ↔ i ∈ inputs') :
      out.priv.cls.rank ≤ out'.priv.cls.rank := by
    obtain ⟨i, hi, hfrom⟩ := h.privFrom
    rw [← hfrom]
    exact h'.priv i ((hmem i).mp hi)
  refine ⟨?_, ?_, ?_, ?_⟩
  · apply BitVec.eq_of_getLsbD_eq
    intro k _
    rw [Bool.eq_iff_iff, h.eFlags, h'.eFlags]
    simp only [hmem]
  · by_cases hzero : out.stackAlign = 0
    · by_cases hzero' : out'.stackAlign = 0
      · rw [hzero, hzero']
      · exact hstack h' h (fun i => (hmem i).symm) hzero'
    · exact (hstack h h' hmem hzero).symm
  · apply BitVec.eq_of_getLsbD_eq
    intro k _
    rw [Bool.eq_iff_iff, h.unalignedAccess, h'.unalignedAccess]
    simp only [hmem]
  · exact PrivSpecClass.rank_inj (Nat.le_antisymm (hrank h h' hmem) (hrank h' h fun i => (hmem i).symm))

/-- The order of the objects does not matter for the header flags, the alignment of the stack, unaligned access and
the privileged spec, nor for whether the objects are incompatible.  Only a privileged spec that no object has in a
version that is recognised is taken from the object that comes last. -/
theorem linkObjects_perm (archSize : Nat) (target : List Char) (inputs inputs' : List InputBfd)
    (hperm : inputs.Perm inputs') (hin : ∀ i ∈ inputs, Linkable target i)
    (harch : ¬ (linkObjects archSize target inputs).1.arch.Fails)
    (harch' : ¬ (linkObjects archSize target inputs').1.arch.Fails) :
    (linkObjects archSize target inputs).2 = (linkObjects archSize target inputs').2 ∧
      ((linkObjects archSize target inputs).2 = true →
        (linkObjects archSize target inputs).1.eFlags = (linkObjects archSize target inputs').1.eFlags ∧
        (linkObjects archSize target inputs).1.stackAlign = (linkObjects archSize target inputs').1.stackAlign ∧
        (linkObjects archSize target inputs).1.unalignedAccess =
        (linkObjects archSize target inputs').1.unalignedAccess ∧
        (linkObjects archSize target inputs).1.priv.cls = (linkObjects archSize target inputs').1.priv.cls ∧
        ((∃ i ∈ inputs, i.values.priv.cls ≠ .none) →
          (linkObjects archSize target inputs).1.priv = (linkObjects archSize target inputs').1.priv) ∧
        ((∀ i ∈ inputs, i.values.priv.cls = .none) →
          ∀ last ∈ inputs.getLast?, (linkObjects archSize target inputs).1.priv = last.values.priv)) := by
  by_cases hne : inputs = []
  · obtain rfl : inputs' = [] := by
      rw [hne] at hperm
      exact List.nil_perm.mp hperm
    rw [hne]
    exact ⟨rfl, fun _ => ⟨rfl, rfl, rfl, rfl, fun _ => rfl, fun _ => by simp⟩⟩
  have hne' : inputs' ≠ [] := fun h => hne (List.perm_nil.mp (h ▸ hperm))
  have hin' : ∀ i ∈ inputs', Linkable target i := fun i hi => hin i (hperm.mem_iff.mpr hi)
  rcases linkObjects_cases hne hin harch with ⟨hok, hmerged⟩ | ⟨hbad, i, hi, j, hj, hagree⟩
  · rcases linkObjects_cases hne' hin' harch' with ⟨hok', hmerged'⟩ | ⟨-, i, hi, j, hj, hagree⟩
    · refine ⟨hok.trans hok'.symm, fun _ => ?_⟩
      have hmem : ∀ i, i ∈ inputs.reverse ↔ i ∈ inputs'.reverse := by
        intro i
        rw [List.mem_reverse, List.mem_reverse]
        exact hperm.mem_iff
      obtain ⟨hflags, hstack, hunaligned, hcls⟩ := hmerged.unique hmerged' hmem
      refine ⟨hflags, hstack, hunaligned, hcls, ?_, ?_⟩
      · rintro ⟨i, hi, hknown⟩
        refine PrivSpec.eq_of_cls hcls fun hnone => hknown ?_
        have hrank := hmerged.priv i (List.mem_reverse.mpr hi)
        rw [hnone] at hrank
        cases hcls : i.values.priv.cls with
        | none => rfl
        | _ =>
          rw [hcls] at hrank
          exact absurd hrank (by decide)
      · intro hnone last hlast
        obtain ⟨i, hi, hfrom⟩ := hmerged.privFrom
        have hcls : (linkObjects archSize target inputs).1.priv.cls = .none := by
          rw [← hfrom]
          exact hnone i (List.mem_reverse.mp hi)
        refine (hmerged.privLast hcls last ?_).symm
        rw [List.head?_reverse]
        exact hlast
    · refine absurd ?_ hagree
      exact hmerged.agree i (List.mem_reverse.mpr (hperm.mem_iff.mpr hi)) j
        (List.mem_reverse.mpr (hperm.mem_iff.mpr hj))
  · rcases linkObjects_cases hne' hin' harch' with ⟨-, hmerged'⟩ | ⟨hbad', -⟩
    · refine absurd ?_ hagree
      exact hmerged'.agree i (List.mem_reverse.mpr (hperm.mem_iff.mp hi)) j
        (List.mem_reverse.mpr (hperm.mem_iff.mp hj))
    · refine ⟨hbad.trans hbad'.symm, fun hok => ?_⟩
      rw [hbad] at hok
      cases hok

/-- An object with code and the given attributes and flags. -/
def codeObject (attrs : ObjAttrs) (eFlags : BitVec 32) : InputBfd where
  target := "elf64-littleriscv".toList
  sections := [⟨true, true, true⟩]
  attrs := some attrs
  eFlags := eFlags

theorem codeObject_linkable {attrs : ObjAttrs} {eFlags : BitVec 32}
    (h : eFlags &&& ~~~(efRiscvRvc ||| efRiscvFloatAbi ||| efRiscvRve ||| efRiscvTso) = 0) :
    Linkable "elf64-littleriscv".toList (codeObject attrs eFlags) :=
  ⟨rfl, rfl, rfl, rfl, rfl, h⟩

/-- Compressed code for version 1.11 and other code for 1.10, in either order. -/
theorem linkObjects_newest :
    (linkObjects 64 "elf64-littleriscv".toList
        [codeObject { priv := ⟨1, 11, 0⟩ } 0x5, codeObject { priv := ⟨1, 10, 0⟩, stackAlign := 16 } 0x4]).1.priv =
      (linkObjects 64 "elf64-littleriscv".toList
        [codeObject { priv := ⟨1, 10, 0⟩, stackAlign := 16 } 0x4, codeObject { priv := ⟨1, 11, 0⟩ } 0x5]).1.priv := by
  have hin : ∀ i ∈ [codeObject { priv := ⟨1, 11, 0⟩ } 0x5, codeObject { priv := ⟨1, 10, 0⟩, stackAlign := 16 } 0x4],
      Linkable "elf64-littleriscv".toList i := by
    simp only [List.forall_mem_cons]
    exact ⟨codeObject_linkable (by decide), codeObject_linkable (by decide), by simp⟩
  refine ((linkObjects_perm 64 "elf64-littleriscv".toList _ _ (.swap _ _ _) hin ?_ ?_).2 ?_).2.2.2.2.1 ?_
  · unfold Isa.LinkState.Fails
    decide +kernel
  · unfold Isa.LinkState.Fails
    decide +kernel
  · decide +kernel
  · exact ⟨_, List.mem_cons_self, by decide +kernel⟩

/-- Two objects whose privileged specs are not recognised get the one that comes last; and architectures that are
found to be incompatible in one order only. -/
theorem linkObjects_order_matters :
    ((linkObjects 64 "elf64-littleriscv".toList
        [codeObject { priv := ⟨1, 13, 0⟩ } 0, codeObject {} 0]).2 = true ∧
      (linkObjects 64 "elf64-littleriscv".toList
        [codeObject {} 0, codeObject { priv := ⟨1, 13, 0⟩ } 0]).2 = true ∧
      (linkObjects 64 "elf64-littleriscv".toList
        [codeObject { priv := ⟨1, 13, 0⟩ } 0, codeObject {} 0]).1.priv = ⟨0, 0, 0⟩ ∧
      (linkObjects 64 "elf64-littleriscv".toList
        [codeObject {} 0, codeObject { priv := ⟨1, 13, 0⟩ } 0]).1.priv = ⟨1, 13, 0⟩) ∧
    (linkObjects 64 "elf64-littleriscv".toList
        [codeObject { arch := "rv64i2p1_zfinx1p0".toList } 0, codeObject { arch := "rv64i2p1_f2p2".toList } 0,
          codeObject { arch := "rv64i2p1".toList } 0]).2 = false ∧
      (linkObjects 64 "elf64-littleriscv".toList
        [codeObject { arch := "rv64i2p1_zfinx1p0".toList } 0, codeObject { arch := "rv64i2p1".toList } 0,
          codeObject { arch := "rv64i2p1_f2p2".toList } 0]).2 = true := by
  decide +kernel

end Order

end RiscvBinutils.Bfd
