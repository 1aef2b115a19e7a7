import Netdisk2Blob.Library.Bytes

/-!
# Computations that May Panic

A computation that returns a value, fails with an error or panics. Text is cut at byte
positions, and a cut inside a character is a panic.

## Contents

- `Panicking`, with `bind_eq_returns` and `bind_eq_panics`
- `isCharBoundary`, `strSlice`: `&value[i..j]`
- `slice`: the same between positions that are known to be boundaries
-/

namespace Netdisk2Blob.Library

/-! ## Section 1: Outcomes -/

/-- No value at all stands for a panic. -/
abbrev Panicking (ε α : Type) := ExceptT ε Option α

namespace Panicking

variable {ε α β : Type}

def returns (value : α) : Panicking ε α := ExceptT.mk (some (.ok value))

def fails (error : ε) : Panicking ε α := ExceptT.mk (some (.error error))

def panics : Panicking ε α := ExceptT.mk none

/-- A value or an error, and no panic. -/
def ofExcept (x : Except ε α) : Panicking ε α := ExceptT.mk (some x)

instance [DecidableEq ε] [DecidableEq α] : DecidableEq (Panicking ε α) :=
  inferInstanceAs (DecidableEq (Option (Except ε α)))

theorem cases (x : Panicking ε α) :
    x = panics ∨ (∃ error, x = fails error) ∨ ∃ value, x = returns value := by
  rcases (x : Option (Except ε α)) with _ | (error | value)
  · exact Or.inl rfl
  · exact Or.inr (Or.inl ⟨error, rfl⟩)
  · exact Or.inr (Or.inr ⟨value, rfl⟩)

@[simp] theorem returns_bind (value : α) (f : α → Panicking ε β) :
    ((returns value : Panicking ε α) >>= f) = f value := rfl

@[simp] theorem fails_bind (error : ε) (f : α → Panicking ε β) :
    ((fails error : Panicking ε α) >>= f) = fails error := rfl

@[simp] theorem panics_bind (f : α → Panicking ε β) :
    ((panics : Panicking ε α) >>= f) = panics := rfl

@[simp] theorem returns_inj {a b : α} : (returns a : Panicking ε α) = returns b ↔ a = b := by
  constructor
  · intro h
    exact Except.ok.inj (Option.some.inj h)
  · rintro rfl
    rfl

@[simp] theorem returns_ne_panics {a : α} : (returns a : Panicking ε α) ≠ panics :=
  fun h => Option.some_ne_none _ h

@[simp] theorem panics_ne_returns {a : α} : (panics : Panicking ε α) ≠ returns a :=
  fun h => returns_ne_panics h.symm

@[simp] theorem fails_ne_panics {error : ε} : (fails error : Panicking ε α) ≠ panics :=
  fun h => Option.some_ne_none _ h

@[simp] theorem fails_ne_returns {error : ε} {a : α} : (fails error : Panicking ε α) ≠ returns a :=
  fun h => Except.noConfusion rfl rfl (heq_of_eq (Option.some.inj h))

@[simp] theorem ofExcept_ok (value : α) :
    (ofExcept (.ok value) : Panicking ε α) = returns value := rfl

@[simp] theorem ofExcept_ne_panics (x : Except ε α) : ofExcept x ≠ panics :=
  fun h => Option.some_ne_none _ h

/-- A sequence returns when both parts do. -/
theorem bind_eq_returns {x : Panicking ε α} {f : α → Panicking ε β} {b : β} :
    (x >>= f) = returns b ↔ ∃ a, x = returns a ∧ f a = returns b := by
  rcases cases x with rfl | ⟨error, rfl⟩ | ⟨value, rfl⟩ <;> simp

/-- A sequence panics when its first part does, or its second part behind the first. -/
theorem bind_eq_panics {x : Panicking ε α} {f : α → Panicking ε β} :
    (x >>= f) = panics ↔ x = panics ∨ ∃ a, x = returns a ∧ f a = panics := by
  rcases cases x with rfl | ⟨error, rfl⟩ | ⟨value, rfl⟩ <;> simp

end Panicking

/-! ## Section 2: Cuts of a text -/

/-- `str::is_char_boundary`: no continuation byte stands at the position. -/
def isCharBoundary (text : Bytes) (i : Nat) : Bool :=
  if i = 0 then true
  else
    match text[i]? with
    | some byte => byte.toNat < 128 || 192 ≤ byte.toNat
    | none => i == text.length

/-- The bytes between two positions. -/
def piece (text : Bytes) (i j : Nat) : Bytes := (text.take j).drop i

/-- `&text[i..j]`. -/
def strSlice {ε : Type} (text : Bytes) (i j : Nat) : Panicking ε Bytes :=
  if i ≤ j ∧ isCharBoundary text i = true ∧ isCharBoundary text j = true then
    .returns (piece text i j)
  else .panics

variable {text : Bytes}

/-- In a text of ASCII characters every position is a boundary. -/
theorem isCharBoundary_of_ascii (h : ∀ byte ∈ text, byte.toNat < 128) {i : Nat}
    (hi : i ≤ text.length) : isCharBoundary text i = true := by
  unfold isCharBoundary
  split
  · rfl
  · split
    · rename_i byte hbyte
      simp [h byte (List.mem_of_getElem? hbyte)]
    · rename_i hnone
      have hlength := List.getElem?_eq_none_iff.mp hnone
      simp only [beq_iff_eq]
      omega

theorem piece_append {i j k : Nat} (hij : i ≤ j) (hjk : j ≤ k) :
    piece text i j ++ piece text j k = piece text i k := by
  have hmin : min j k = j := Nat.min_eq_left hjk
  have htake : (text.take k).take j = text.take j := by rw [List.take_take, hmin]
  rw [piece, piece, piece, ← htake]
  exact drop_take_append_drop (text.take k) hij

theorem piece_zero {j : Nat} (h : text.length ≤ j) : piece text 0 j = text := by
  rw [piece, List.take_of_length_le h, List.drop_zero]

theorem length_piece {i j : Nat} (hj : j ≤ text.length) : (piece text i j).length = j - i := by
  rw [piece, List.length_drop, List.length_take, Nat.min_eq_left hj]

/-! ## Section 3: Cuts between characters -/

/-- `&text[i..j]` of a text as its characters. -/
def slice {ε α : Type} (text : List α) (i j : Nat) : Panicking ε (List α) :=
  if i ≤ j ∧ j ≤ text.length then .returns ((text.take j).drop i) else .panics

theorem slice_append {ε α : Type} (before middle after : List α) :
    (slice (before ++ (middle ++ after)) before.length (before.length + middle.length) :
      Panicking ε (List α)) = .returns middle := by
  rw [slice, if_pos ⟨Nat.le_add_right _ _, by simp only [List.length_append]; omega⟩]
  congr 1
  rw [List.take_append, List.take_of_length_le (by omega), Nat.add_sub_cancel_left,
    List.take_left' rfl, List.drop_left' rfl]

theorem slice_eq_returns {ε α : Type} {text part : List α} {i j : Nat} (hj : j ≤ text.length) :
    (slice text i j : Panicking ε (List α)) = .returns part ↔
      i ≤ j ∧ (text.take j).drop i = part := by
  unfold slice
  split
  · rename_i h
    simp [h.1]
  · rename_i h
    simp only [Panicking.panics_ne_returns, false_iff]
    exact fun hcut => h ⟨hcut.1, hj⟩

/-- Between positions of the text, only a cut out of order panics. -/
theorem slice_eq_panics {ε α : Type} {text : List α} {i j : Nat} (hj : j ≤ text.length) :
    (slice text i j : Panicking ε (List α)) = .panics ↔ j < i := by
  unfold slice
  split
  · rename_i h
    simp only [Panicking.returns_ne_panics, false_iff]
    omega
  · rename_i h
    simp only [true_iff]
    omega

end Netdisk2Blob.Library
