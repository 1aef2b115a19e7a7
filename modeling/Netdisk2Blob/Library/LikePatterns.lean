import Mathlib.Data.List.Infix
import Mathlib.Data.String.Basic

/-!
# LIKE Patterns

The pattern language of `LIKE ... ESCAPE` in SQL: `%` stands for any text, `_` for any one
character, the escape character takes the meaning of the character after it away, and every
other character stands for itself, ASCII letters of either case.

## Contents

- `LikeToken`, `tokens`: a pattern read from left to right
- `tokensMatch`, `like`: the matcher
- `escapeLike`: a text as a pattern for itself
- `like_escapeLike`: an escaped text before a `%` matches what starts with the text up to
  the case of ASCII letters
-/

namespace Netdisk2Blob.Library

/-! ## Section 1: Patterns and matching -/

inductive LikeToken where
  | literal (c : Char)
  | one
  | many
  deriving DecidableEq, Repr

/-- What a character that is not escaped stands for. -/
def LikeToken.ofChar (c : Char) : LikeToken :=
  if c = '%' then .many else if c = '_' then .one else .literal c

/-- A pattern as tokens; an escape character at the end makes it no pattern. -/
def tokens (escape : Char) : List Char → Option (List LikeToken)
  | [] => some []
  | [c] => if c = escape then none else some [.ofChar c]
  | c :: d :: rest =>
    if c = escape then (tokens escape rest).map (.literal d :: ·)
    else (tokens escape (d :: rest)).map (.ofChar c :: ·)

/-- Two characters that are one up to the case of ASCII letters. -/
def SameFolded (c d : Char) : Prop := c.toLower = d.toLower

instance (c d : Char) : Decidable (SameFolded c d) := inferInstanceAs (Decidable (_ = _))

def tokensMatch : List LikeToken → List Char → Bool
  | [], text => text.isEmpty
  | .literal _ :: _, [] => false
  | .literal c :: rest, a :: text => decide (SameFolded c a) && tokensMatch rest text
  | .one :: _, [] => false
  | .one :: rest, _ :: text => tokensMatch rest text
  | .many :: rest, text => text.tails.any (tokensMatch rest)

/-- `text LIKE pattern ESCAPE escape`. -/
def like (escape : Char) (pattern text : String) : Bool :=
  (tokens escape pattern.toList).any (fun parsed => tokensMatch parsed text.toList)

/-! ## Section 2: Escaped text -/

/-- The text with the escape character before every character that has a meaning. -/
def escapeLike (escape : Char) (text : List Char) : List Char :=
  text.flatMap (fun c => if c = escape ∨ c = '%' ∨ c = '_' then [escape, c] else [c])

/-- The text starts with the stem up to the case of ASCII letters. -/
def StartsFolded (stem text : List Char) : Prop :=
  stem.map Char.toLower <+: text.map Char.toLower

instance (stem text : List Char) : Decidable (StartsFolded stem text) :=
  inferInstanceAs (Decidable (_ <+: _))

theorem tokens_escaped (escape d : Char) (rest : List Char) :
    tokens escape (escape :: d :: rest) = (tokens escape rest).map (.literal d :: ·) := by
  rw [tokens, if_pos rfl]

theorem tokens_plain {escape c : Char} {rest : List Char} (h : c ≠ escape) (hmany : c ≠ '%')
    (hone : c ≠ '_') : tokens escape (c :: rest) = (tokens escape rest).map (.literal c :: ·) := by
  have hchar : LikeToken.ofChar c = .literal c := by
    rw [LikeToken.ofChar, if_neg hmany, if_neg hone]
  cases rest with
  | nil => simp [tokens, h, hchar]
  | cons d rest => rw [tokens, if_neg h, hchar]

/-- Escaped text is read as the text itself. -/
theorem tokens_escapeLike (escape : Char) (text rest : List Char) :
    tokens escape (escapeLike escape text ++ rest) =
      (tokens escape rest).map (text.map LikeToken.literal ++ ·) := by
  induction text with
  | nil => simp [escapeLike]
  | cons c text ih =>
    have hstep : escapeLike escape (c :: text) ++ rest =
        (if c = escape ∨ c = '%' ∨ c = '_' then [escape, c] else [c]) ++
          (escapeLike escape text ++ rest) := by
      simp [escapeLike]
    rw [hstep]
    split
    · rw [List.cons_append, List.singleton_append, tokens_escaped, ih, Option.map_map]
      rfl
    · rename_i hplain
      obtain ⟨hescape, hmany, hone⟩ := not_or.mp hplain |>.imp_right not_or.mp
      rw [List.singleton_append, tokens_plain hescape hmany hone, ih, Option.map_map]
      rfl

/-! ## Section 3: Prefix patterns -/

theorem tokensMatch_many (text : List Char) : tokensMatch [.many] text = true := by
  rw [tokensMatch, List.any_eq_true]
  exact ⟨[], (List.mem_tails _ _).mpr List.nil_suffix, rfl⟩

/-- Literals before a `%` match a start of the text. -/
theorem tokensMatch_literals (stem text : List Char) :
    tokensMatch (stem.map LikeToken.literal ++ [.many]) text = true ↔ StartsFolded stem text := by
  induction stem generalizing text with
  | nil => exact iff_of_true (tokensMatch_many text) List.nil_prefix
  | cons c stem ih =>
    cases text with
    | nil =>
      apply iff_of_false
      · exact Bool.false_ne_true
      · simp [StartsFolded]
    | cons a text =>
      have hstart : StartsFolded (c :: stem) (a :: text) ↔
          SameFolded c a ∧ StartsFolded stem text := by
        simp [StartsFolded, SameFolded, List.cons_prefix_cons]
      rw [hstart, ← ih, List.map_cons, List.cons_append, tokensMatch, Bool.and_eq_true,
        decide_eq_true_eq]

/-- An escaped text before a `%` is a search for what starts with the text, up to the case of
ASCII letters. -/
theorem like_escapeLike {escape : Char} (h : escape ≠ '%') (stem text : String) :
    like escape (String.ofList (escapeLike escape stem.toList ++ ['%'])) text = true ↔
      StartsFolded stem.toList text.toList := by
  have hmany : tokens escape ['%'] = some [.many] := by
    rw [tokens, if_neg h.symm]
    rfl
  rw [like, String.toList_ofList, tokens_escapeLike, hmany, Option.map_some, Option.any_some,
    tokensMatch_literals]

/-- What starts with a text starts with it up to case. -/
theorem startsFolded_of_prefix {stem text : List Char} (h : stem <+: text) :
    StartsFolded stem text := h.map Char.toLower

end Netdisk2Blob.Library
