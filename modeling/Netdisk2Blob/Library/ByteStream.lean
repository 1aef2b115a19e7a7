import Mathlib.Data.List.Basic

/-!
# Streams of Byte Strings

A stream is a state and a function that gives the next item, an element list or an
error, and the state after it; the end of the stream is `none`. Collecting a stream
joins its items and stops at the first error.

## Contents

- `collectFrom`: collecting with a bound on the number of items
- `Collects`: a stream ends, and with this result (`collects_iff` unfolds one item,
  `collects_unique` says that there is one result)
-/

namespace Netdisk2Blob.Library

variable {σ ε β : Type*}

/-- A computation that succeeds, one step at a time. -/
theorem bind_eq_ok {α γ : Type*} {x : Except ε α} {f : α → Except ε γ} {c : γ} :
    x.bind f = .ok c ↔ ∃ a, x = .ok a ∧ f a = .ok c := by
  cases x <;> simp [Except.bind]

/-- Collect at most `fuel` items; `none` when the stream goes on. -/
def collectFrom (next : σ → Option (Except ε (List β) × σ)) :
    Nat → σ → Option (Except ε (List β))
  | 0, _ => none
  | fuel + 1, s =>
    match next s with
    | none => some (.ok [])
    | some (.error error, _) => some (.error error)
    | some (.ok item, s') => (collectFrom next fuel s').map (Except.map (item ++ ·))

/-- The stream ends, and its items join to the result or it fails with the error. -/
def Collects (next : σ → Option (Except ε (List β) × σ)) (s : σ)
    (result : Except ε (List β)) : Prop :=
  ∃ fuel, collectFrom next fuel s = some result

variable {next : σ → Option (Except ε (List β) × σ)} {s s' : σ}

theorem collects_end (h : next s = none) : Collects next s (.ok []) :=
  ⟨1, by rw [collectFrom, h]⟩

theorem collects_error {error : ε} (h : next s = some (.error error, s')) :
    Collects next s (.error error) :=
  ⟨1, by rw [collectFrom, h]⟩

theorem collects_item {item : List β} {result : Except ε (List β)}
    (h : next s = some (.ok item, s')) (hrest : Collects next s' result) :
    Collects next s (result.map (item ++ ·)) := by
  obtain ⟨fuel, hfuel⟩ := hrest
  exact ⟨fuel + 1, by rw [collectFrom, h]; simp only [hfuel, Option.map_some]⟩

/-- One item of a stream. -/
theorem collects_iff {result : Except ε (List β)} :
    Collects next s result ↔
      (next s = none ∧ result = .ok []) ∨
      (∃ error s', next s = some (.error error, s') ∧ result = .error error) ∨
      ∃ item s' rest, next s = some (.ok item, s') ∧ Collects next s' rest ∧
        result = rest.map (item ++ ·) := by
  constructor
  · rintro ⟨_ | fuel, hfuel⟩
    · cases hfuel
    · rw [collectFrom] at hfuel
      split at hfuel
      · rename_i hnext
        exact Or.inl ⟨hnext, (Option.some.inj hfuel).symm⟩
      · rename_i error s' hnext
        exact Or.inr (Or.inl ⟨error, s', hnext, (Option.some.inj hfuel).symm⟩)
      · rename_i item s' hnext
        obtain ⟨rest, hrest, rfl⟩ := Option.map_eq_some_iff.mp hfuel
        exact Or.inr (Or.inr ⟨item, s', rest, hnext, ⟨fuel, hrest⟩, rfl⟩)
  · rintro (⟨hnext, rfl⟩ | ⟨error, s', hnext, rfl⟩ | ⟨item, s', rest, hnext, hrest, rfl⟩)
    · exact collects_end hnext
    · exact collects_error hnext
    · exact collects_item hnext hrest

/-- A collection that succeeds: the stream ends here or gives an item. -/
theorem collects_ok_iff {bytes : List β} :
    Collects next s (.ok bytes) ↔
      (next s = none ∧ bytes = []) ∨
      ∃ item s' rest, next s = some (.ok item, s') ∧ Collects next s' (.ok rest) ∧
        bytes = item ++ rest := by
  rw [collects_iff]
  constructor
  · rintro (⟨hnext, hresult⟩ | ⟨error, s', -, hresult⟩ | ⟨item, s', rest, hnext, hrest, hresult⟩)
    · exact Or.inl ⟨hnext, Except.ok.inj hresult⟩
    · cases hresult
    · cases rest with
      | error error => cases hresult
      | ok rest => exact Or.inr ⟨item, s', rest, hnext, hrest, Except.ok.inj hresult⟩
  · rintro (⟨hnext, rfl⟩ | ⟨item, s', rest, hnext, hrest, rfl⟩)
    · exact Or.inl ⟨hnext, rfl⟩
    · exact Or.inr (Or.inr ⟨item, s', .ok rest, hnext, hrest, rfl⟩)

/-- A stream has at most one result. -/
theorem collects_unique {r r' : Except ε (List β)} (h : Collects next s r)
    (h' : Collects next s r') : r = r' := by
  obtain ⟨fuel, hfuel⟩ := h
  induction fuel generalizing s r r' with
  | zero => cases hfuel
  | succ fuel ih =>
    rw [collectFrom] at hfuel
    rcases collects_iff.mp h' with ⟨hnext, rfl⟩ | ⟨error, s', hnext, rfl⟩ |
        ⟨item, s', rest, hnext, hrest, rfl⟩
    · rw [hnext] at hfuel
      exact (Option.some.inj hfuel).symm
    · rw [hnext] at hfuel
      exact (Option.some.inj hfuel).symm
    · rw [hnext] at hfuel
      obtain ⟨first, hfirst, rfl⟩ := Option.map_eq_some_iff.mp hfuel
      rw [ih hrest hfirst]

end Netdisk2Blob.Library
