/-
Bytes with marks between them. A reader goes over the sequence with a view that the marks change,
and every byte is read under the view of the marks before it.
-/
import Mathlib.Data.List.Chain
import Mathlib.Data.List.Basic

namespace RiscvBinutils.Base

/-- A mark or a byte. -/
inductive Event (μ β : Type)
  | mark (name : μ)
  | byte (content : β)

/-- A mark, and the number of bytes before it. -/
structure Mark (μ : Type) where
  name : μ
  value : Nat
  deriving DecidableEq, Repr

variable {μ β : Type}

/-! ## Bytes and places -/

def bytesOf : List (Event μ β) → List β
  | [] => []
  | .mark _ :: es => bytesOf es
  | .byte b :: es => b :: bytesOf es

/-- The marks with their places, where `n` bytes are before. -/
def marksFrom (n : Nat) : List (Event μ β) → List (Mark μ)
  | [] => []
  | .mark m :: es => ⟨m, n⟩ :: marksFrom n es
  | .byte _ :: es => marksFrom (n + 1) es

def Event.isMark : Event μ β → Bool
  | .mark _ => true
  | .byte _ => false

/-- No two marks are at one place. -/
def MarksApart (es : List (Event μ β)) : Prop := es.IsChain fun e e' => e.isMark = false ∨ e'.isMark = false

section Places

variable {es es' : List (Event μ β)} {n : Nat}

@[simp] theorem bytesOf_append (es es' : List (Event μ β)) : bytesOf (es ++ es') = bytesOf es ++ bytesOf es' := by
  induction es with
  | nil => rfl
  | cons e es ih =>
    cases e with
    | mark m => exact ih
    | byte b => rw [List.cons_append, bytesOf, bytesOf, ih, List.cons_append]

@[simp] theorem bytesOf_mark (m : μ) : bytesOf [(.mark m : Event μ β)] = [] := rfl

@[simp] theorem bytesOf_bytes (bs : List β) : bytesOf (bs.map (Event.byte (μ := μ))) = bs := by
  induction bs with
  | nil => rfl
  | cons b bs ih => rw [List.map_cons, bytesOf, ih]

theorem marksFrom_append (n : Nat) (es es' : List (Event μ β)) :
    marksFrom n (es ++ es') = marksFrom n es ++ marksFrom (n + (bytesOf es).length) es' := by
  induction es generalizing n with
  | nil => rfl
  | cons e es ih =>
    cases e with
    | mark m => rw [List.cons_append, marksFrom, marksFrom, ih, List.cons_append, bytesOf]
    | byte b =>
      rw [List.cons_append, marksFrom, marksFrom, ih, bytesOf, List.length_cons, Nat.add_right_comm, Nat.add_assoc]

theorem bytesOf_concat_mark (es : List (Event μ β)) (m : μ) : bytesOf (es ++ [Event.mark m]) = bytesOf es := by
  rw [bytesOf_append, bytesOf_mark, List.append_nil]

theorem length_bytesOf_concat_byte (es : List (Event μ β)) (b : β) :
    (bytesOf (es ++ [Event.byte b])).length = (bytesOf es).length + 1 := by
  rw [bytesOf_append, List.length_append]
  rfl

theorem marksFrom_concat_mark (n : Nat) (es : List (Event μ β)) (m : μ) :
    marksFrom n (es ++ [Event.mark m]) = marksFrom n es ++ [⟨m, n + (bytesOf es).length⟩] := marksFrom_append n es _

theorem marksFrom_concat_byte (n : Nat) (es : List (Event μ β)) (b : β) :
    marksFrom n (es ++ [Event.byte b]) = marksFrom n es := by
  rw [marksFrom_append, marksFrom, marksFrom, List.append_nil]

@[simp] theorem marksFrom_bytes (n : Nat) (bs : List β) : marksFrom n (bs.map (Event.byte (μ := μ))) = [] := by
  induction bs generalizing n with
  | nil => rfl
  | cons b bs ih => rw [List.map_cons, marksFrom, ih]

theorem marksFrom_shift (n k : Nat) (es : List (Event μ β)) :
    marksFrom (n + k) es = (marksFrom k es).map fun m => ⟨m.name, n + m.value⟩ := by
  induction es generalizing k with
  | nil => rfl
  | cons e es ih =>
    cases e with
    | mark m => rw [marksFrom, marksFrom, ih, List.map_cons]
    | byte b => rw [marksFrom, marksFrom, Nat.add_assoc, ih]

theorem marksFrom_range {m : Mark μ} (h : m ∈ marksFrom n es) : n ≤ m.value ∧ m.value ≤ n + (bytesOf es).length := by
  induction es generalizing n with
  | nil => cases h
  | cons e es ih =>
    cases e with
    | mark name =>
      rw [bytesOf]
      rcases List.mem_cons.mp h with rfl | hmem
      · exact ⟨Nat.le_refl _, Nat.le_add_right _ _⟩
      · exact ih hmem
    | byte b =>
      obtain ⟨hlo, hhi⟩ := ih h
      rw [bytesOf, List.length_cons]
      omega

/-- Behind a byte, the marks are at a later place. -/
theorem marksFrom_byte_lt {b : β} {m : Mark μ} (h : m ∈ marksFrom n (.byte b :: es)) : n < m.value :=
  (marksFrom_range (n := n + 1) h).1

theorem MarksApart.append_left (h : MarksApart (es ++ es')) : MarksApart es := (List.isChain_append.mp h).1

theorem MarksApart.tail {e : Event μ β} (h : MarksApart (e :: es)) : MarksApart es := List.IsChain.tail h

/-- MarksApart places are in order. -/
theorem MarksApart.pairwise (h : MarksApart es) : (marksFrom n es).Pairwise fun m m' => m.value < m'.value := by
  induction es generalizing n with
  | nil => exact List.Pairwise.nil
  | cons e es ih =>
    cases e with
    | byte b => exact ih h.tail
    | mark name =>
      refine List.Pairwise.cons ?_ (ih h.tail)
      intro m hm
      cases es with
      | nil => cases hm
      | cons e' es =>
        cases e' with
        | mark name' =>
          rcases List.isChain_cons_cons.mp h with ⟨h | h, -⟩ <;> cases h
        | byte b => exact marksFrom_byte_lt hm

/-- The place of the last mark is a new one. -/
theorem MarksApart.last_not_mem {m : μ} (h : MarksApart (es ++ [Event.mark m])) :
    ⟨m, n + (bytesOf es).length⟩ ∉ marksFrom n es := by
  intro hmem
  have hpair := @MarksApart.pairwise _ _ _ n h
  rw [marksFrom_concat_mark, List.pairwise_append] at hpair
  exact absurd (hpair.2.2 _ hmem _ List.mem_cons_self) (Nat.lt_irrefl _)

/-- Bytes can be put behind. -/
theorem MarksApart.append_bytes (h : MarksApart es) (bs : List β) : MarksApart (es ++ bs.map .byte) := by
  refine List.isChain_append.mpr ⟨h, ?_, ?_⟩
  · induction bs with
    | nil => exact List.IsChain.nil
    | cons b bs ih =>
      rw [List.map_cons]
      refine List.isChain_cons.mpr ⟨?_, ih⟩
      intro e he
      exact .inl rfl
  · intro e he e' he'
    refine .inr ?_
    obtain ⟨b, -, rfl⟩ := List.mem_map.mp (List.mem_of_head? he')
    rfl

end Places

/-! ## Reading -/

section Read

variable {ν : Type} (step : ν → μ → ν) (ok : ν → β → Prop)

/-- The view behind a sequence. -/
def viewAfter (v : ν) : List (Event μ β) → ν
  | [] => v
  | .mark m :: es => viewAfter (step v m) es
  | .byte _ :: es => viewAfter v es

/-- Every byte is read under a view that is right for it. -/
def Good (v : ν) : List (Event μ β) → Prop
  | [] => True
  | .mark m :: es => Good (step v m) es
  | .byte b :: es => ok v b ∧ Good v es

variable {step ok} {es es' : List (Event μ β)} {v : ν}

theorem viewAfter_append (v : ν) (es es' : List (Event μ β)) :
    viewAfter step v (es ++ es') = viewAfter step (viewAfter step v es) es' := by
  induction es generalizing v with
  | nil => rfl
  | cons e es ih =>
    cases e with
    | mark m => exact ih _
    | byte b => exact ih _

@[simp] theorem viewAfter_bytes (v : ν) (bs : List β) : viewAfter step v (bs.map .byte) = v := by
  induction bs with
  | nil => rfl
  | cons b bs ih => exact ih

theorem good_append : Good step ok v (es ++ es') ↔ Good step ok v es ∧ Good step ok (viewAfter step v es) es' := by
  induction es generalizing v with
  | nil =>
    constructor
    · exact fun h => ⟨trivial, h⟩
    · exact fun h => h.2
  | cons e es ih =>
    cases e with
    | mark m => exact ih
    | byte b =>
      constructor
      · rintro ⟨hb, h⟩
        obtain ⟨h₁, h₂⟩ := ih.mp h
        exact ⟨⟨hb, h₁⟩, h₂⟩
      · rintro ⟨⟨hb, h₁⟩, h₂⟩
        exact ⟨hb, ih.mpr ⟨h₁, h₂⟩⟩

theorem good_bytes {bs : List β} (h : ∀ b ∈ bs, ok v b) : Good step ok v (bs.map .byte) := by
  induction bs with
  | nil => exact trivial
  | cons b bs ih => exact ⟨h b List.mem_cons_self, ih fun b' hb' => h b' (List.mem_cons_of_mem b hb')⟩

/-- The sequence up to a byte. -/
theorem exists_before {p : Nat} {b : β} (h : (bytesOf es)[p]? = some b) :
    ∃ pre post, es = pre ++ .byte b :: post ∧ (bytesOf pre).length = p := by
  induction es generalizing p with
  | nil => cases h
  | cons e es ih =>
    cases e with
    | mark m =>
      obtain ⟨pre, post, rfl, hlen⟩ := ih h
      exact ⟨.mark m :: pre, post, rfl, hlen⟩
    | byte b' =>
      cases p with
      | zero =>
        obtain rfl : b' = b := by simpa [bytesOf] using h
        exact ⟨[], es, rfl, rfl⟩
      | succ p =>
        obtain ⟨pre, post, rfl, hlen⟩ := ih (by simpa [bytesOf] using h)
        exact ⟨.byte b' :: pre, post, rfl, congrArg Nat.succ hlen⟩

theorem Good.at_byte {pre post : List (Event μ β)} {b : β} (h : Good step ok v (pre ++ .byte b :: post)) :
    ok (viewAfter step v pre) b :=
  (good_append.mp h).2.1

/-- The marks at or before a byte are those before it in the sequence. -/
theorem mem_marksFrom_le {pre post : List (Event μ β)} {b : β} {m : Mark μ} :
    m ∈ marksFrom 0 (pre ++ .byte b :: post) ∧ m.value ≤ (bytesOf pre).length ↔ m ∈ marksFrom 0 pre := by
  rw [marksFrom_append, List.mem_append]
  constructor
  · rintro ⟨hmem | hmem, hle⟩
    · exact hmem
    · have hlt := marksFrom_byte_lt hmem
      omega
  · intro hmem
    have hrange := marksFrom_range hmem
    exact ⟨.inl hmem, by omega⟩

end Read

end RiscvBinutils.Base
