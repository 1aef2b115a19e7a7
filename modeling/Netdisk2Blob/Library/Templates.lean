import Netdisk2Blob.Library.XmlText
import Mathlib.Data.List.Infix

/-!
# Templates

A text with references between an opening and a closing mark. It is read from the left: the
first opening mark starts a reference, and the first closing mark behind it ends the reference.
What stands between references is literal text.

## Contents

- `Clear`, `findText_eq_some_iff`: where a search for a mark ends
- `Piece`, `write`, `WellFormed`: templates by their pieces
- `Scans`: reading a text from the left
- `scans_iff`: reading finds the pieces as which the text can be written, and there is one
  way to write it at most (`write_injective`)
-/

namespace Netdisk2Blob.Library.Templates

open Library

/-! ## Section 1: Searching for a mark -/

/-- A mark that is put behind the text is not seen any earlier, whatever comes behind it. -/
def Clear (mark text : List Char) : Prop := ¬ mark <:+: text ++ mark.dropLast

section Search

variable {mark text : List Char}

theorem clear_nil (hmark : mark ≠ []) : Clear mark [] := by
  intro hinfix
  have hlength := hinfix.length_le
  have hpos := List.length_pos_of_ne_nil hmark
  simp only [List.nil_append, List.length_dropLast] at hlength
  omega

theorem Clear.tail {c : Char} (h : Clear mark (c :: text)) : Clear mark text := by
  intro hinfix
  exact h (List.infix_cons hinfix)

/-- What is seen at the start of `text ++ mark ++ after` is seen without `after`. -/
theorem prefix_dropLast {after : List Char} (htext : text ≠ [])
    (h : mark <+: text ++ (mark ++ after)) : mark <+: text ++ mark.dropLast := by
  have hshort : text ++ mark.dropLast <+: text ++ (mark ++ after) := by
    rw [List.prefix_append_right_inj]
    exact (List.dropLast_prefix mark).trans (List.prefix_append mark after)
  apply List.prefix_of_prefix_length_le h hshort
  have hpos := List.length_pos_of_ne_nil htext
  simp only [List.length_append, List.length_dropLast]
  omega

/-- The search stops where the text before the mark is clear of it. -/
theorem findText_eq_some_iff (hmark : mark ≠ []) {n : Nat} :
    findText mark text = some n ↔
      ∃ before after, text = before ++ (mark ++ after) ∧ before.length = n ∧
        Clear mark before := by
  induction text generalizing n with
  | nil =>
      rw [findText, if_neg hmark]
      constructor
      · intro h
        cases h
      · rintro ⟨before, after, htext, -⟩
        have hnil := List.append_eq_nil_iff.mp (List.append_eq_nil_iff.mp htext.symm).2
        exact absurd hnil.1 hmark
  | cons c text ih =>
      rw [findText]
      by_cases hstarts : mark.isPrefixOf (c :: text) = true
      · rw [if_pos hstarts]
        obtain ⟨after, hafter⟩ := List.isPrefixOf_iff_prefix.mp hstarts
        constructor
        · intro h
          cases h
          exact ⟨[], after, hafter.symm, rfl, clear_nil hmark⟩
        · rintro ⟨before, after', htext, rfl, hclear⟩
          cases before with
          | nil => rfl
          | cons b before =>
              -- the mark at the start would be seen in front of the clear text
              have hseen : mark <+: (b :: before) ++ (mark ++ after') := by
                rw [← htext]
                exact List.isPrefixOf_iff_prefix.mp hstarts
              have hshort := prefix_dropLast (List.cons_ne_nil b before) hseen
              exact absurd hshort.isInfix hclear
      · rw [if_neg hstarts]
        constructor
        · intro h
          obtain ⟨m, hm, rfl⟩ := Option.map_eq_some_iff.mp h
          obtain ⟨before, after, htext, hlength, hclear⟩ := ih.mp hm
          refine ⟨c :: before, after, by rw [htext]; rfl, by rw [List.length_cons, hlength], ?_⟩
          intro hinfix
          rcases List.infix_cons_iff.mp hinfix with hstart | hlater
          · apply hstarts
            rw [List.isPrefixOf_iff_prefix, htext, ← List.cons_append]
            apply hstart.trans
            show (c :: before) ++ mark.dropLast <+: (c :: before) ++ (mark ++ after)
            rw [List.prefix_append_right_inj]
            exact (List.dropLast_prefix mark).trans (List.prefix_append mark after)
          · exact hclear hlater
        · rintro ⟨before, after, htext, rfl, hclear⟩
          cases before with
          | nil =>
              apply absurd _ hstarts
              rw [List.isPrefixOf_iff_prefix, htext]
              exact List.prefix_append mark after
          | cons b before =>
              obtain ⟨rfl, rfl⟩ := List.cons.inj htext
              have hfound := ih.mpr ⟨before, after, rfl, rfl, hclear.tail⟩
              rw [hfound]
              rfl

theorem findText_eq_none_iff (hmark : mark ≠ []) : findText mark text = none ↔ ¬ mark <:+: text := by
  induction text with
  | nil =>
      rw [findText, if_neg hmark]
      simp [hmark]
  | cons c text ih =>
      rw [findText, List.infix_cons_iff, ← List.isPrefixOf_iff_prefix, not_or, ← ih]
      by_cases hstarts : mark.isPrefixOf (c :: text) = true
      · rw [if_pos hstarts]
        simp [hstarts]
      · rw [if_neg hstarts]
        simp [hstarts]

end Search

/-! ## Section 2: Pieces -/

inductive Piece where
  | literal (text : List Char)
  | reference (token : List Char)
  deriving DecidableEq, Repr

variable {opening closing : List Char}

def Piece.text (opening closing : List Char) : Piece → List Char
  | .literal text => text
  | .reference token => opening ++ (token ++ closing)

/-- The text of a template. -/
def write (opening closing : List Char) (pieces : List Piece) : List Char :=
  pieces.flatMap (Piece.text opening closing)

@[simp] theorem write_nil : write opening closing [] = [] := rfl

@[simp] theorem write_cons (piece : Piece) (pieces : List Piece) :
    write opening closing (piece :: pieces) =
      piece.text opening closing ++ write opening closing pieces := rfl

/-- What may follow a literal text: nothing, or a reference whose mark is not seen earlier. -/
def EndsLiteral (opening text : List Char) : List Piece → Prop
  | [] => ¬ opening <:+: text
  | .literal _ :: _ => False
  | .reference _ :: _ => Clear opening text

/-- The pieces as reading finds them. -/
def WellFormed (opening closing : List Char) : List Piece → Prop
  | [] => True
  | .literal text :: rest =>
    text ≠ [] ∧ EndsLiteral opening text rest ∧ WellFormed opening closing rest
  | .reference token :: rest => Clear closing token ∧ WellFormed opening closing rest

/-- The literal text in front of a reference, when there is any. -/
def literalOf (text : List Char) : List Piece := if text = [] then [] else [.literal text]

theorem write_literalOf (text : List Char) (pieces : List Piece) :
    write opening closing (literalOf text ++ pieces) = text ++ write opening closing pieces := by
  rw [literalOf]
  split_ifs with htext
  · rw [htext]
    rfl
  · rfl

/-! ## Section 3: Reading -/

/-- One reference after the other, then the text behind the last of them. -/
inductive Scans (opening closing : List Char) : List Char → List Piece → Prop where
  | done {text : List Char} (hnone : findText opening text = none) :
      Scans opening closing text (literalOf text)
  | reference {text : List Char} {start stop : Nat} {pieces : List Piece}
      (hstart : findText opening text = some start)
      (hstop : findText closing (text.drop (start + opening.length)) = some stop)
      (hrest : Scans opening closing
        (text.drop (start + opening.length + stop + closing.length)) pieces) :
      Scans opening closing text
        (literalOf (text.take start) ++
          .reference ((text.drop (start + opening.length)).take stop) :: pieces)

/-- The text in front of a reference, the reference, and what is behind it. -/
theorem Scans.of_parts (hopening : opening ≠ []) (hclosing : closing ≠ [])
    {before token after : List Char} {pieces : List Piece} (hbefore : Clear opening before)
    (htoken : Clear closing token) (hrest : Scans opening closing after pieces) :
    Scans opening closing (before ++ (opening ++ (token ++ (closing ++ after))))
      (literalOf before ++ .reference token :: pieces) := by
  have hstart : findText opening (before ++ (opening ++ (token ++ (closing ++ after)))) =
      some before.length :=
    (findText_eq_some_iff hopening).mpr ⟨before, _, rfl, rfl, hbefore⟩
  have hbehind : (before ++ (opening ++ (token ++ (closing ++ after)))).drop
      (before.length + opening.length) = token ++ (closing ++ after) := by
    rw [← List.drop_drop, List.drop_left, List.drop_left]
  have hstop : findText closing (token ++ (closing ++ after)) = some token.length :=
    (findText_eq_some_iff hclosing).mpr ⟨token, after, rfl, rfl, htoken⟩
  have hlast : (before ++ (opening ++ (token ++ (closing ++ after)))).drop
      (before.length + opening.length + token.length + closing.length) = after := by
    rw [← List.drop_drop, ← List.drop_drop, hbehind, List.drop_left, List.drop_left]
  have hscan := Scans.reference hstart (by rw [hbehind]; exact hstop) (by rw [hlast]; exact hrest)
  rwa [hbehind, List.take_left, List.take_left] at hscan

/-- Reading what is written finds the pieces again: a literal text is read together with the
reference behind it. -/
theorem scans_write (hopening : opening ≠ []) (hclosing : closing ≠ []) :
    ∀ {pieces : List Piece}, WellFormed opening closing pieces →
      Scans opening closing (write opening closing pieces) pieces
  | [], _ => by
      have hnone : findText opening [] = none := by rw [findText, if_neg hopening]
      exact Scans.done hnone
  | [.literal text], hwell => by
      obtain ⟨hne, hends, -⟩ := hwell
      have hscan : Scans opening closing text (literalOf text) :=
        Scans.done ((findText_eq_none_iff hopening).mpr hends)
      simpa [Piece.text, literalOf, hne] using hscan
  | .literal _ :: .literal _ :: _, hwell => hwell.2.1.elim
  | .literal text :: .reference token :: rest, hwell => by
      obtain ⟨hne, hends, htoken, hrest⟩ := hwell
      have hscan := Scans.of_parts hopening hclosing hends htoken
        (scans_write hopening hclosing hrest)
      simpa [Piece.text, literalOf, hne] using hscan
  | .reference token :: rest, hwell => by
      have hscan := Scans.of_parts hopening hclosing (clear_nil hopening) hwell.1
        (scans_write hopening hclosing hwell.2)
      simpa [Piece.text, literalOf] using hscan

/-- What reading finds is well formed, and is what is written there. -/
theorem Scans.sound (hopening : opening ≠ []) (hclosing : closing ≠ []) {text : List Char}
    {pieces : List Piece} (h : Scans opening closing text pieces) :
    WellFormed opening closing pieces ∧ write opening closing pieces = text := by
  induction h with
  | @done text hnone =>
      rw [literalOf]
      split_ifs with htext
      · exact ⟨trivial, htext.symm⟩
      · have hno := (findText_eq_none_iff hopening).mp hnone
        refine ⟨⟨htext, hno, trivial⟩, ?_⟩
        simp [Piece.text]
  | @reference text start stop pieces hstart hstop hrest ih =>
      obtain ⟨before, behind, rfl, rfl, hbefore⟩ := (findText_eq_some_iff hopening).mp hstart
      have hbehind : (before ++ (opening ++ behind)).drop (before.length + opening.length) =
          behind := by
        rw [← List.drop_drop, List.drop_left, List.drop_left]
      rw [hbehind] at hstop
      obtain ⟨token, after, rfl, rfl, htoken⟩ := (findText_eq_some_iff hclosing).mp hstop
      have hlast : (before ++ (opening ++ (token ++ (closing ++ after)))).drop
          (before.length + opening.length + token.length + closing.length) = after := by
        rw [← List.drop_drop, ← List.drop_drop, hbehind, List.drop_left, List.drop_left]
      rw [hlast] at ih
      rw [hbehind, List.take_left, List.take_left]
      obtain ⟨hwell, hwrite⟩ := ih
      constructor
      · rw [literalOf]
        split_ifs with hnil
        · exact ⟨htoken, hwell⟩
        · exact ⟨hnil, hbefore, htoken, hwell⟩
      · rw [write_literalOf, write_cons, hwrite, Piece.text]
        simp only [List.append_assoc]

/-- **Reading rule.** Reading finds the pieces as which the text is written. -/
theorem scans_iff (hopening : opening ≠ []) (hclosing : closing ≠ []) {text : List Char}
    {pieces : List Piece} :
    Scans opening closing text pieces ↔
      WellFormed opening closing pieces ∧ write opening closing pieces = text := by
  constructor
  · exact Scans.sound hopening hclosing
  · rintro ⟨hwell, rfl⟩
    exact scans_write hopening hclosing hwell

/-- Reading has one outcome at most. -/
theorem Scans.unique {text : List Char} {pieces pieces' : List Piece}
    (h : Scans opening closing text pieces) (h' : Scans opening closing text pieces') :
    pieces = pieces' := by
  induction h generalizing pieces' with
  | done hnone =>
      cases h' with
      | done => rfl
      | reference hstart =>
          rw [hnone] at hstart
          cases hstart
  | reference hstart hstop hrest ih =>
      cases h' with
      | done hnone =>
          rw [hnone] at hstart
          cases hstart
      | reference hstart' hstop' hrest' =>
          rw [hstart] at hstart'
          cases hstart'
          rw [hstop] at hstop'
          cases hstop'
          rw [ih hrest']

/-- A text is written in one way at most. -/
theorem write_injective (hopening : opening ≠ []) (hclosing : closing ≠ [])
    {pieces pieces' : List Piece} (h : WellFormed opening closing pieces)
    (h' : WellFormed opening closing pieces')
    (hwrite : write opening closing pieces = write opening closing pieces') :
    pieces = pieces' := by
  have hscan := scans_write hopening hclosing h
  rw [hwrite] at hscan
  exact hscan.unique (scans_write hopening hclosing h')

end Netdisk2Blob.Library.Templates
