/-
What a deletion moves (bfd/elfnn-riscv.c, `_riscv_relax_delete_bytes`).
Every relocation, symbol and byte outside the deleted range ends up where the range's absence puts it, and nothing
of another section changes.
-/
import RiscvBinutils.Bfd.Distance

namespace RiscvBinutils.Bfd

open RiscvBinutils.Base

/-! ## The file -/

/-- The sections of the input file, with the symbol tables that they share. -/
structure FileState where
  size : Nat → Vma
  contents : Nat → List Byte
  relocs : Nat → List Rela
  locals : List LocalSym
  hashes : List HashEntry

def FileState.secState (f : FileState) (sec : Nat) : SecState where
  size := f.size sec
  contents := f.contents sec
  relocs := f.relocs sec
  locals := f.locals
  hashes := f.hashes

/-- `_riscv_relax_delete_bytes`, on the file. -/
def FileState.deleteBytes (f : FileState) (info : SecInfo) (addr count : Vma) (p : Option PcgpRelocs)
    (deleteTotal toaddr : Vma) : FileState :=
  let st := (riscvRelaxDeleteBytes info (f.secState info.sec) addr count p deleteTotal toaddr).1
  { size := Function.update f.size info.sec st.size
    contents := Function.update f.contents info.sec st.contents
    relocs := Function.update f.relocs info.sec st.relocs
    locals := st.locals
    hashes := st.hashes }

/-! ## One symbol -/

/-- Not strictly inside the deleted range. -/
def Outside (addr count : Vma) (x : Nat) : Prop :=
  x ≤ addr.toNat ∨ addr.toNat + count.toNat ≤ x

/-- A symbol starts in its section, and ends there too, unless it lies behind the deleted range as a whole. -/
structure InSection (size addr value symSize : Vma) : Prop where
  starts : value.toNat ≤ size.toNat
  ends : value.toNat ≤ addr.toNat → value.toNat + symSize.toNat ≤ size.toNat

/-- Start and end are moved by the deletion. -/
structure SymMoved (addr count value symSize value' symSize' : Vma) : Prop where
  starts : value'.toNat = retract addr.toNat count.toNat value.toNat
  ends : value'.toNat + symSize'.toNat = retract addr.toNat count.toNat (value.toNat + symSize.toNat)

/-- The two exclusive branches of the code: behind the range the value moves, around it the size shrinks. -/
theorem adjustSym_moved {addr count size value symSize : Vma} (hin : InSection size addr value symSize)
    (hstart : Outside addr count value.toNat) (hend : Outside addr count (value.toNat + symSize.toNat)) :
    SymMoved addr count value symSize (adjustSym addr count size value symSize).1
      (adjustSym addr count size value symSize).2 := by
  have hvalue := @adjustSym_value_toNat addr count size value symSize hin.starts hstart
  refine ⟨hvalue, ?_⟩
  rw [hvalue]
  unfold Outside at hstart hend
  unfold adjustSym retract
  by_cases hbehind : addr.toNat < value.toNat
  · have hmoves : addr < value ∧ value ≤ size := ⟨BitVec.lt_def.mpr hbehind, BitVec.le_def.mpr hin.starts⟩
    rw [if_pos hmoves, if_pos hbehind, if_pos (by omega)]
    dsimp only
    omega
  · have hstays : ¬ (addr < value ∧ value ≤ size) := fun h => hbehind (BitVec.lt_def.mp h.1)
    have hfits := hin.ends (by omega)
    have hsum : (value + symSize).toNat = value.toNat + symSize.toNat := by
      rw [BitVec.toNat_add]
      omega
    rw [if_neg hstays, if_neg hbehind]
    by_cases hspan : addr.toNat < value.toNat + symSize.toNat
    · have hshrinks : value ≤ addr ∧ addr < value + symSize ∧ value + symSize ≤ size := by
        rw [BitVec.le_def, BitVec.lt_def, BitVec.le_def, hsum]
        omega
      rw [if_pos hshrinks, if_pos hspan]
      dsimp only
      rw [BitVec.toNat_sub]
      omega
    · have hbefore : ¬ (value ≤ addr ∧ addr < value + symSize ∧ value + symSize ≤ size) := by
        rw [BitVec.lt_def, hsum]
        exact fun h => hspan h.2.1
      rw [if_neg hbefore, if_neg hspan]

/-! ## The whole file -/

/-- The entry is defined in the section. -/
def DefinedIn (info : SecInfo) (h : HashEntry) : Prop :=
  (h.rootType = .defined ∨ h.rootType = .defweak) ∧ h.defSection = some info.sec

/-- The bytes of the section while earlier deletions have left a gap of `width` bytes at `gap`. -/
def FileState.bytes (f : FileState) (sec : Nat) (gap width : Nat) : List Byte :=
  closeGap (f.contents sec) gap width (f.size sec).toNat

/-- The range lies in front of `toaddr`, up to which the bytes move, in the section. -/
structure DeleteRange (f : FileState) (sec : Nat) (addr count deleteTotal toaddr : Vma) : Prop where
  range : addr.toNat + count.toNat ≤ toaddr.toNat
  inside : toaddr.toNat ≤ (f.size sec).toNat
  buffer : (f.size sec).toNat + deleteTotal.toNat ≤ (f.contents sec).length
  bounded : (f.size sec).toNat + deleteTotal.toNat < 2 ^ 64

/-- Only with `--wrap`, or when it is versioned, an entry stands in the table of the file several times. -/
def Aliased (info : SecInfo) (hashes : List HashEntry) : Prop :=
  ∀ (p : Nat) (h : HashEntry), hashes[p]? = some h →
    (info.wrapHash = true ∨ h.versioned ≠ .unversioned) ∨ info.symHashes.count p ≤ 1

/-- What the deletion has made of the file. -/
structure Moved (info : SecInfo) (f f' : FileState) (addr count deleteTotal toaddr : Vma) : Prop where
  size : (f'.size info.sec).toNat = (f.size info.sec).toNat - count.toNat
  bytes : ∀ k < (f.size info.sec).toNat, k < addr.toNat ∨ addr.toNat + count.toNat ≤ k →
    (f'.bytes info.sec (toaddr.toNat - count.toNat) (deleteTotal.toNat + count.toNat))[
        if k < addr.toNat then k else k - count.toNat]? =
      (f.bytes info.sec addr.toNat deleteTotal.toNat)[k]?
  rela : ∀ (i : Nat) (r : Rela), (f.relocs info.sec)[i]? = some r → r.offset.toNat < (f.size info.sec).toNat →
    Outside addr count r.offset.toNat →
    ∃ offset : Vma, (f'.relocs info.sec)[i]? = some { r with offset } ∧
      offset.toNat = retract addr.toNat count.toNat r.offset.toNat
  localSym : ∀ (i : Nat) (s : LocalSym), f.locals[i]? = some s → s.shndx = info.shndx →
    InSection (f.size info.sec) addr s.value s.size → Outside addr count s.value.toNat →
    Outside addr count (s.value.toNat + s.size.toNat) →
    ∃ value size, f'.locals[i]? = some { s with value, size } ∧ SymMoved addr count s.value s.size value size
  globalSym : ∀ (p : Nat) (h : HashEntry), p ∈ info.symHashes → f.hashes[p]? = some h → DefinedIn info h →
    InSection (f.size info.sec) addr h.defValue h.size → Outside addr count h.defValue.toNat →
    Outside addr count (h.defValue.toNat + h.size.toNat) →
    ∃ defValue size, f'.hashes[p]? = some { h with defValue, size } ∧
      SymMoved addr count h.defValue h.size defValue size
  otherLocal : ∀ (i : Nat) (s : LocalSym), f.locals[i]? = some s → s.shndx ≠ info.shndx → f'.locals[i]? = some s
  otherGlobal : ∀ (p : Nat) (h : HashEntry), f.hashes[p]? = some h → ¬ DefinedIn info h → f'.hashes[p]? = some h
  otherSection : ∀ sec ≠ info.sec, f'.size sec = f.size sec ∧ f'.contents sec = f.contents sec ∧
    f'.relocs sec = f.relocs sec

section Delete

variable {info : SecInfo} {f : FileState} {addr count deleteTotal toaddr : Vma} {p : Option PcgpRelocs}

theorem deleteBytes_size_sec :
    (f.deleteBytes info addr count p deleteTotal toaddr).size info.sec = f.size info.sec - count := by
  rw [FileState.deleteBytes]
  dsimp only
  rw [Function.update_self, deleteBytes_size]
  rfl

theorem deleteBytes_relocs_sec : (f.deleteBytes info addr count p deleteTotal toaddr).relocs info.sec =
    (f.relocs info.sec).map (adjustRela addr count (f.size info.sec)) := by
  rw [FileState.deleteBytes]
  dsimp only
  rw [Function.update_self, deleteBytes_relocs]
  rfl

theorem deleteBytes_locals_sec : (f.deleteBytes info addr count p deleteTotal toaddr).locals =
    f.locals.map (adjustLocal info addr count (f.size info.sec)) :=
  deleteBytes_locals info (f.secState info.sec) addr count p deleteTotal toaddr

theorem deleteBytes_hashes_sec : (f.deleteBytes info addr count p deleteTotal toaddr).hashes =
    adjustHashes info addr count (f.size info.sec) [] info.symHashes f.hashes :=
  deleteBytes_hashes info (f.secState info.sec) addr count p deleteTotal toaddr

/-- Entries of other sections stay as they are, as often as they are listed. -/
theorem adjustHashes_of_other {size : Vma} {q : Nat} {h : HashEntry} (hother : ¬ DefinedIn info h) :
    ∀ (seen rest : List Nat) (hs : List HashEntry), hs[q]? = some h →
      (adjustHashes info addr count size seen rest hs)[q]? = some h
  | _, [], _, hh => hh
  | seen, r :: rest, hs, hh => by
    rw [adjustHashes]
    refine adjustHashes_of_other hother _ rest _ ?_
    by_cases hq : r = q
    · subst hq
      simp only [hh]
      split
      · exact hh
      · have hsame : adjustHash info addr count size h = h := by
          unfold adjustHash
          exact if_neg hother
        rw [hsame, List.getElem?_set_self (List.getElem?_eq_some_iff.mp hh).1]
    · split
      · exact hh
      · split
        · exact hh
        · rw [List.getElem?_set_ne hq, hh]

theorem deleteBytes_bytes (hrange : DeleteRange f info.sec addr count deleteTotal toaddr) :
    (f.deleteBytes info addr count p deleteTotal toaddr).bytes info.sec (toaddr.toNat - count.toNat)
        (deleteTotal.toNat + count.toNat) =
      excise addr.toNat count.toNat (f.bytes info.sec addr.toNat deleteTotal.toNat) := by
  obtain ⟨hrange, hinside, hbuffer, hbounded⟩ := hrange
  have hcontents : (f.deleteBytes info addr count p deleteTotal toaddr).contents info.sec =
      memmove (f.contents info.sec) addr.toNat (addr.toNat + count.toNat + deleteTotal.toNat)
        (toaddr.toNat - addr.toNat - count.toNat) := by
    rw [FileState.deleteBytes]
    dsimp only
    rw [Function.update_self]
    exact deleteBytes_contents info (f.secState info.sec) addr count p deleteTotal toaddr (by omega) hrange
  have hsize : ((f.deleteBytes info addr count p deleteTotal toaddr).size info.sec).toNat =
      (f.size info.sec).toNat - count.toNat := by
    rw [deleteBytes_size_sec, BitVec.toNat_sub]
    omega
  rw [FileState.bytes, FileState.bytes, hcontents, hsize]
  exact closeGap_memmove hrange hinside hbuffer

/-- The deletion moves every symbol, relocation and byte outside the range, each entry of the hash table once, and
leaves other sections alone. -/
theorem deleteBytes_moved (hrange : DeleteRange f info.sec addr count deleteTotal toaddr)
    (halias : Aliased info f.hashes) :
    Moved info f (f.deleteBytes info addr count p deleteTotal toaddr) addr count deleteTotal toaddr where
  size := by
    have hle := hrange.range.trans hrange.inside
    rw [deleteBytes_size_sec, BitVec.toNat_sub]
    omega
  bytes := by
    intro k hk hout
    have hle := hrange.range.trans hrange.inside
    have hlen : (f.bytes info.sec addr.toNat deleteTotal.toNat).length = (f.size info.sec).toNat :=
      closeGap_length (by omega) hrange.buffer
    rw [deleteBytes_bytes hrange]
    exact excise_getElem? (by omega) hout
  rela := by
    intro i r hr hin hout
    refine ⟨(adjustRela addr count (f.size info.sec) r).offset, ?_, adjustRela_offset_toNat hin hout⟩
    have hsame : adjustRela addr count (f.size info.sec) r =
        { r with offset := (adjustRela addr count (f.size info.sec) r).offset } := by
      unfold adjustRela
      split <;> rfl
    rw [← hsame, deleteBytes_relocs_sec, List.getElem?_map, hr, Option.map_some]
  localSym := by
    intro i s hs hsec hin hstart hend
    refine ⟨_, _, ?_, adjustSym_moved hin hstart hend⟩
    rw [deleteBytes_locals_sec, List.getElem?_map, hs, Option.map_some, adjustLocal, if_pos hsec]
  globalSym := by
    intro q h hq hh hdef hin hstart hend
    refine ⟨_, _, ?_, adjustSym_moved hin hstart hend⟩
    rw [deleteBytes_hashes_sec, adjustHashes_getElem? [] info.symHashes f.hashes (by simp) hq hh (halias q h hh)]
    unfold adjustHash
    exact congrArg some (if_pos hdef)
  otherLocal := by
    intro i s hs hsec
    rw [deleteBytes_locals_sec, List.getElem?_map, hs, Option.map_some, adjustLocal, if_neg hsec]
  otherGlobal := by
    intro q h hh hother
    rw [deleteBytes_hashes_sec]
    exact adjustHashes_of_other hother _ _ _ hh
  otherSection := by
    intro sec hsec
    exact ⟨Function.update_of_ne hsec .., Function.update_of_ne hsec .., Function.update_of_ne hsec ..⟩

end Delete

/-! ## Past the end -/

def tailInfo : SecInfo := { sec := 0, shndx := 1, symHashes := [0, 0], wrapHash := true }

/-- A relocation at the end of the section, a symbol that ends behind it and one that starts there; a wrapped symbol
that the file refers to by two names. -/
def tailFile : FileState where
  size _ := 16
  contents _ := List.replicate 16 0
  relocs _ := [⟨16, 0, .none, 0⟩]
  locals := [⟨0, 20, 1, .notype⟩, ⟨20, 0, 1, .notype⟩]
  hashes := [{ rootType := .defined, defSection := some 0, defValue := 12, size := 4 }]

theorem tailFile_range : DeleteRange tailFile tailInfo.sec 4 4 0 16 where
  range := by decide
  inside := by decide
  buffer := by decide
  bounded := by decide

theorem tailFile_aliased : Aliased tailInfo tailFile.hashes := fun _ _ _ => .inl (.inl rfl)

theorem tailFile_moved : Moved tailInfo tailFile (tailFile.deleteBytes tailInfo 4 4 none 0 16) 4 4 0 16 :=
  deleteBytes_moved tailFile_range tailFile_aliased

/-- The relocation and the symbols past the end stay, where the range's absence would move them. -/
theorem tailFile_stays : DeleteRange tailFile tailInfo.sec 4 4 0 16 ∧ Aliased tailInfo tailFile.hashes ∧
    ((tailFile.deleteBytes tailInfo 4 4 none 0 16).relocs 0 = [⟨16, 0, .none, 0⟩] ∧ Outside 4 4 16 ∧
      retract 4 4 16 = 12) ∧
    ((tailFile.deleteBytes tailInfo 4 4 none 0 16).locals = [⟨0, 20, 1, .notype⟩, ⟨20, 0, 1, .notype⟩] ∧
      Outside 4 4 20 ∧ retract 4 4 20 = 16) :=
  ⟨tailFile_range, tailFile_aliased, ⟨by decide, .inr (by decide), rfl⟩, ⟨by decide, .inr (by decide), rfl⟩⟩

end RiscvBinutils.Bfd
