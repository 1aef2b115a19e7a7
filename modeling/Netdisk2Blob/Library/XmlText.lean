import Netdisk2Blob.Library.UrlPaths

/-!
# Texts of XML

Searching a text for a tag, and character data in which characters are escaped. A document
is read here as its tags and the text between them, without looking at how the tags nest.

## Contents

- `findText`: `str::find` with a pattern
- `Markup`, `renderAll`: texts and tags; `findText_renderAll`: where a search for a tag ends
- `EscapedAs`: the ways to write a character in character data
- `trimList_append`, `trimList_eq_self_iff`: what trimming takes away
-/

namespace Netdisk2Blob.Library

open Library.Text Library.UrlPaths

/-! ## Section 1: Searching -/

/-- `str::find`: where the pattern occurs first. -/
def findText (pattern : List Char) : List Char → Option Nat
  | [] => if pattern = [] then some 0 else none
  | c :: text =>
    if pattern.isPrefixOf (c :: text) then some 0 else (findText pattern text).map (· + 1)

theorem findText_append (pattern rest : List Char) : findText pattern (pattern ++ rest) = some 0 := by
  cases hall : pattern ++ rest with
  | nil =>
    obtain ⟨rfl, rfl⟩ := List.append_eq_nil_iff.mp hall
    rfl
  | cons c text =>
    have hprefix : pattern.isPrefixOf (c :: text) = true := by
      rw [← hall]
      exact List.isPrefixOf_iff_prefix.mpr (List.prefix_append _ _)
    rw [findText, if_pos hprefix]

/-- A search goes past text without the first character of the pattern. -/
theorem findText_skip {c : Char} {pattern before : List Char} (h : c ∉ before)
    (rest : List Char) :
    findText (c :: pattern) (before ++ rest) =
      (findText (c :: pattern) rest).map (before.length + ·) := by
  induction before with
  | nil => simp
  | cons b before ih =>
    obtain ⟨hne, hbefore⟩ := List.ne_and_not_mem_of_not_mem_cons h
    have hprefix : (c :: pattern).isPrefixOf (b :: (before ++ rest)) = false := by
      simp [List.isPrefixOf, hne]
    rw [List.cons_append, findText, hprefix, ih hbefore, Option.map_map]
    simp only [Bool.false_eq_true, ↓reduceIte]
    congr 1
    funext n
    simp only [Function.comp_apply, List.length_cons]
    omega

/-! ## Section 2: Markup -/

/-- Character data, or a tag by what stands between its brackets. -/
inductive Markup where
  | text (chars : List Char)
  | tag (name : List Char)
  deriving DecidableEq, Repr

def tagText (name : List Char) : List Char := '<' :: (name ++ ['>'])

namespace Markup

def render : Markup → List Char
  | text chars => chars
  | tag name => tagText name

/-- No bracket stands where it would be taken for one of a tag. -/
def Valid : Markup → Prop
  | text chars => '<' ∉ chars
  | tag name => '<' ∉ name ∧ '>' ∉ name

instance : (markup : Markup) → Decidable markup.Valid
  | text chars => inferInstanceAs (Decidable ('<' ∉ chars))
  | tag name => inferInstanceAs (Decidable ('<' ∉ name ∧ '>' ∉ name))

end Markup

def renderAll (document : List Markup) : List Char := document.flatMap Markup.render

@[simp] theorem renderAll_nil : renderAll [] = [] := rfl

@[simp] theorem renderAll_cons (markup : Markup) (document : List Markup) :
    renderAll (markup :: document) = markup.render ++ renderAll document := List.flatMap_cons

@[simp] theorem renderAll_append (before after : List Markup) :
    renderAll (before ++ after) = renderAll before ++ renderAll after := List.flatMap_append

/-- Names that end at their first bracket are compared up to it. -/
theorem name_prefix_iff {name other rest : List Char} (hname : '>' ∉ name) (hother : '>' ∉ other) :
    name ++ ['>'] <+: other ++ '>' :: rest ↔ name = other := by
  constructor
  · intro h
    induction name generalizing other with
    | nil =>
      cases other with
      | nil => rfl
      | cons b other =>
        have hb : '>' = b := (List.cons_prefix_cons.mp h).1
        exact absurd (hb ▸ List.mem_cons_self) hother
    | cons a name ih =>
      cases other with
      | nil =>
        have ha : a = '>' := (List.cons_prefix_cons.mp h).1
        exact absurd (ha ▸ List.mem_cons_self) hname
      | cons b other =>
        obtain ⟨rfl, hrest⟩ := List.cons_prefix_cons.mp h
        rw [ih (fun hmem => hname (List.mem_cons_of_mem _ hmem))
          (fun hmem => hother (List.mem_cons_of_mem _ hmem)) hrest]
  · rintro rfl
    exact ⟨rest, by simp⟩

/-- A search for a tag goes past another one. -/
theorem findText_skip_tag {name other : List Char} (hname : '>' ∉ name)
    (hother : (Markup.tag other).Valid) (hne : name ≠ other) (rest : List Char) :
    findText (tagText name) (tagText other ++ rest) =
      (findText (tagText name) rest).map ((tagText other).length + ·) := by
  have hprefix : (tagText name).isPrefixOf (tagText other ++ rest) = false := by
    rw [Bool.eq_false_iff]
    intro h
    have hcons := List.isPrefixOf_iff_prefix.mp h
    simp only [tagText, List.cons_append, List.append_assoc, List.nil_append,
      List.cons_prefix_cons, true_and] at hcons
    exact hne ((name_prefix_iff hname hother.2).mp hcons)
  have hbody : '<' ∉ other ++ ['>'] := by
    simp [hother.1]
  rw [show tagText other ++ rest = '<' :: ((other ++ ['>']) ++ rest) from rfl] at hprefix ⊢
  rw [findText, hprefix, show tagText name = '<' :: (name ++ ['>']) from rfl,
    findText_skip hbody, Option.map_map]
  simp only [Bool.false_eq_true, ↓reduceIte]
  congr 1
  funext n
  simp only [Function.comp_apply, tagText, List.length_cons]
  omega

/-- A search for a tag goes past markup without it. -/
theorem findText_skip_markup {name : List Char} (hname : '>' ∉ name) {before : List Markup}
    (hvalid : ∀ markup ∈ before, markup.Valid) (hnot : Markup.tag name ∉ before)
    (rest : List Char) :
    findText (tagText name) (renderAll before ++ rest) =
      (findText (tagText name) rest).map ((renderAll before).length + ·) := by
  induction before with
  | nil => simp
  | cons markup before ih =>
    obtain ⟨hfirst, hrest⟩ := List.forall_mem_cons.mp hvalid
    obtain ⟨hne, hbefore⟩ := List.ne_and_not_mem_of_not_mem_cons hnot
    have hadd : ∀ m : Nat, ((findText (tagText name) rest).map
        ((renderAll before).length + ·)).map (m + ·) =
          (findText (tagText name) rest).map ((m + (renderAll before).length) + ·) := by
      intro m
      rw [Option.map_map]
      congr 1
      funext n
      simp only [Function.comp_apply]
      omega
    rw [renderAll_cons, List.append_assoc]
    cases markup with
    | text chars =>
      rw [Markup.render, tagText, findText_skip hfirst, ← tagText, ih hrest hbefore, hadd,
        List.length_append]
    | tag other =>
      have hother : name ≠ other := fun h => hne (h ▸ rfl)
      rw [Markup.render, findText_skip_tag hname hfirst hother, ih hrest hbefore, hadd,
        List.length_append]

/-- **A search for a tag of a document ends at its first occurrence.** -/
theorem findText_renderAll {name : List Char} (hname : '>' ∉ name) {before : List Markup}
    (hvalid : ∀ markup ∈ before, markup.Valid) (hnot : Markup.tag name ∉ before)
    (rest : List Char) :
    findText (tagText name) (renderAll before ++ (tagText name ++ rest)) =
      some (renderAll before).length := by
  rw [findText_skip_markup hname hvalid hnot, findText_append]
  rfl

theorem findText_renderAll_eq_none {name : List Char} (hname : '>' ∉ name)
    {document : List Markup} (hvalid : ∀ markup ∈ document, markup.Valid)
    (hnot : Markup.tag name ∉ document) : findText (tagText name) (renderAll document) = none := by
  have hskip := findText_skip_markup hname hvalid hnot []
  rwa [List.append_nil] at hskip

/-! ## Section 3: Character data -/

/-- The predefined entities. -/
def xmlEntities : List (List Char × Char) :=
  [("amp".toList, '&'), ("lt".toList, '<'), ("gt".toList, '>'), ("quot".toList, '"'),
    ("apos".toList, '\'')]

/-- `u32::from_str_radix(_, 16)`. -/
def parseHex (max : Nat) (s : List Char) : Option Nat :=
  let digits := if s.head? = some '+' then s.tail else s
  if digits.isEmpty then none
  else
    (digits.mapM hexValue).bind fun values =>
      let value := values.foldl (fun n digit => 16 * n + digit) 0
      if value ≤ max then some value else none

/-- The ways to write a character: as it is, by a predefined entity, or by its number. -/
inductive EscapedAs : Char → List Char → Prop where
  | raw {c : Char} (h : c ≠ '<') (hne : c ≠ '&') : EscapedAs c [c]
  | entity {c : Char} {name : List Char} (h : (name, c) ∈ xmlEntities) :
      EscapedAs c ('&' :: (name ++ [';']))
  | decimal {c : Char} {digits : List Char} (h : digits.all Char.isDigit = true)
      (hvalue : parseUnsigned u32Max (String.ofList digits) = some c.toNat) :
      EscapedAs c ('&' :: '#' :: (digits ++ [';']))
  | hexadecimal {c : Char} {digits : List Char}
      (h : ∀ d ∈ digits, (hexValue d).isSome = true)
      (hvalue : parseHex u32Max digits = some c.toNat) :
      EscapedAs c ('&' :: '#' :: 'x' :: (digits ++ [';']))

/-- Written-out characters, and the character data that they make up. -/
def contentOf (written : List (Char × List Char)) : List Char := written.map Prod.fst

def escapedOf (written : List (Char × List Char)) : List Char := written.flatMap Prod.snd

def Escaped (written : List (Char × List Char)) : Prop :=
  ∀ pair ∈ written, EscapedAs pair.1 pair.2

theorem isDigit_ne {c : Char} (h : c.isDigit = true) : c ≠ '<' ∧ c ≠ ';' := by
  constructor <;> rintro rfl <;> exact absurd h (by decide)

theorem hexValue_ne {c : Char} (h : (hexValue c).isSome = true) : c ≠ '<' ∧ c ≠ ';' := by
  constructor <;> rintro rfl <;> exact absurd h (by decide)

/-- A written-out character is itself, or stands between an ampersand and a semicolon. -/
theorem EscapedAs.shape {c : Char} {text : List Char} (h : EscapedAs c text) :
    (text = [c] ∧ c ≠ '<' ∧ c ≠ '&') ∨
      ∃ name, text = '&' :: (name ++ [';']) ∧ '<' ∉ name ∧ ';' ∉ name := by
  cases h with
  | raw h hne => exact Or.inl ⟨rfl, h, hne⟩
  | entity h =>
    have hnames : ∀ pair ∈ xmlEntities, '<' ∉ pair.1 ∧ ';' ∉ pair.1 := by decide
    exact Or.inr ⟨_, rfl, hnames _ h⟩
  | decimal h _ =>
    have hdigits := fun d hd => isDigit_ne (List.all_eq_true.mp h d hd)
    refine Or.inr ⟨'#' :: _, rfl, ?_, ?_⟩
    · simpa using fun hmem => (hdigits _ hmem).1 rfl
    · simpa using fun hmem => (hdigits _ hmem).2 rfl
  | hexadecimal h _ =>
    have hdigits := fun d hd => hexValue_ne (h d hd)
    refine Or.inr ⟨'#' :: 'x' :: _, rfl, ?_, ?_⟩
    · simpa using fun hmem => (hdigits _ hmem).1 rfl
    · simpa using fun hmem => (hdigits _ hmem).2 rfl

/-- Character data opens no tag. -/
theorem not_mem_escapedOf {written : List (Char × List Char)} (h : Escaped written) :
    '<' ∉ escapedOf written := by
  intro hmem
  obtain ⟨pair, hpair, hin⟩ := List.mem_flatMap.mp hmem
  rcases (h pair hpair).shape with ⟨htext, hne, -⟩ | ⟨name, htext, hname, -⟩
  · rw [htext, List.mem_singleton] at hin
    exact hne hin.symm
  · rw [htext] at hin
    simp [hname] at hin

/-! ## Section 4: Trimming -/

section Trimming

variable {α : Type*} {p : α → Bool}

/-- Neither end of the list is taken away. -/
def EdgeFree (p : α → Bool) (l : List α) : Prop :=
  (∀ a ∈ l.head?, p a = false) ∧ ∀ a ∈ l.getLast?, p a = false

theorem dropWhile_eq_self {l : List α} (h : ∀ a ∈ l.head?, p a = false) : l.dropWhile p = l := by
  cases l with
  | nil => rfl
  | cons a l => rw [List.dropWhile_cons, if_neg (by simp [h a rfl])]

theorem rdropWhile_eq_self {l : List α} (h : ∀ a ∈ l.getLast?, p a = false) :
    l.rdropWhile p = l := by
  rw [List.rdropWhile, dropWhile_eq_self, List.reverse_reverse]
  rwa [List.head?_reverse]

theorem trimList_of_edgeFree {l : List α} (h : EdgeFree p l) : trimList p l = l := by
  rw [trimList, dropWhile_eq_self h.1, rdropWhile_eq_self h.2]

theorem edgeFree_trimList (l : List α) : EdgeFree p (trimList p l) := by
  constructor
  · intro a ha
    cases htrim : trimList p l with
    | nil =>
      rw [htrim] at ha
      cases ha
    | cons b rest =>
      have hhead := trimList_head (p := p) (l := l) (by rw [htrim]; exact Nat.succ_pos _)
      simp only [htrim, List.get_eq_getElem, List.getElem_cons_zero, Bool.not_eq_true] at hhead
      rw [htrim] at ha
      cases ha
      exact hhead
  · intro a ha
    have hne : trimList p l ≠ [] := by
      rintro hnil
      rw [hnil] at ha
      cases ha
    rw [List.getLast?_eq_some_getLast hne] at ha
    cases ha
    exact Bool.eq_false_iff.mpr (List.rdropWhile_last_not p (l.dropWhile p) hne)

theorem trimList_eq_self_iff {l : List α} : trimList p l = l ↔ EdgeFree p l :=
  ⟨fun h => h ▸ edgeFree_trimList l, trimList_of_edgeFree⟩

/-- What is trimmed away at the two ends. -/
theorem exists_trimList (p : α → Bool) (l : List α) :
    ∃ before after, l = before ++ (trimList p l ++ after) ∧ (∀ a ∈ before, p a = true) ∧
      ∀ a ∈ after, p a = true := by
  refine ⟨l.takeWhile p, (l.dropWhile p).rtakeWhile p, ?_, ?_, ?_⟩
  · rw [trimList, List.rdropWhile_append_rtakeWhile, List.takeWhile_append_dropWhile]
  · exact fun a ha => List.mem_takeWhile_imp ha
  · exact fun a ha => List.mem_rtakeWhile_imp ha

theorem trimList_append {before l after : List α} (hbefore : ∀ a ∈ before, p a = true)
    (hafter : ∀ a ∈ after, p a = true) : trimList p (before ++ (l ++ after)) = trimList p l := by
  have hlast : ∀ l : List α, (l ++ after).rdropWhile p = l.rdropWhile p := by
    intro l
    rw [List.rdropWhile, List.reverse_append, List.dropWhile_append_of_pos, ← List.rdropWhile]
    exact fun a ha => hafter a (List.mem_reverse.mp ha)
  rw [trimList, trimList, List.dropWhile_append_of_pos hbefore, List.dropWhile_append]
  split
  · -- nothing of the piece is left
    rename_i hempty
    rw [List.isEmpty_iff.mp hempty, List.dropWhile_eq_nil_iff.mpr hafter]
  · exact hlast _

/-- A piece between two ends that are taken away is what is left, if it is free of them. -/
theorem trimList_eq {before l after : List α} (hbefore : ∀ a ∈ before, p a = true)
    (hafter : ∀ a ∈ after, p a = true) (hl : EdgeFree p l) :
    trimList p (before ++ (l ++ after)) = l := by
  rw [trimList_append hbefore hafter, trimList_of_edgeFree hl]

end Trimming

/-! ## Section 5: Trimming character data -/

/-- A character of class `p` that is written as it is. -/
def isRaw (p : Char → Bool) (pair : Char × List Char) : Bool :=
  decide (pair.2 = [pair.1]) && p pair.1

theorem escapedOf_append (before after : List (Char × List Char)) :
    escapedOf (before ++ after) = escapedOf before ++ escapedOf after := List.flatMap_append

theorem contentOf_append (before after : List (Char × List Char)) :
    contentOf (before ++ after) = contentOf before ++ contentOf after := List.map_append

section CharacterData

variable {p : Char → Bool} {written : List (Char × List Char)}

theorem forall_contentOf_of_isRaw (h : ∀ pair ∈ written, isRaw p pair = true) :
    ∀ c ∈ contentOf written, p c = true := by
  intro c hc
  obtain ⟨pair, hpair, rfl⟩ := List.mem_map.mp hc
  exact (Bool.and_eq_true_iff.mp (h pair hpair)).2

theorem forall_escapedOf_of_isRaw (h : ∀ pair ∈ written, isRaw p pair = true) :
    ∀ c ∈ escapedOf written, p c = true := by
  intro c hc
  obtain ⟨pair, hpair, hin⟩ := List.mem_flatMap.mp hc
  obtain ⟨htext, hclass⟩ := Bool.and_eq_true_iff.mp (h pair hpair)
  rw [of_decide_eq_true htext, List.mem_singleton] at hin
  exact hin ▸ hclass

/-- Character data begins with what its first character is written as. -/
theorem edgeFree_escapedOf (hescaped : Escaped written) (hamp : p '&' = false)
    (hsemicolon : p ';' = false) (h : EdgeFree (isRaw p) written) :
    EdgeFree p (escapedOf written) := by
  have hraw : ∀ {pair : Char × List Char}, isRaw p pair = false → pair.2 = [pair.1] →
      p pair.1 = false := by
    intro pair hpair htext
    simpa [isRaw, htext] using hpair
  constructor
  · cases written with
    | nil => exact fun c hc => absurd hc (by simp [escapedOf])
    | cons pair rest =>
      intro c hc
      rcases (hescaped pair List.mem_cons_self).shape with ⟨htext, -⟩ | ⟨name, htext, -⟩
      · simp only [escapedOf, List.flatMap_cons, htext, List.singleton_append,
          List.head?_cons, Option.mem_some_iff] at hc
        exact hc ▸ hraw (h.1 pair rfl) htext
      · simp only [escapedOf, List.flatMap_cons, htext, List.cons_append,
          List.head?_cons, Option.mem_some_iff] at hc
        exact hc ▸ hamp
  · induction written using List.reverseRecOn with
    | nil => exact fun c hc => absurd hc (by simp [escapedOf])
    | append_singleton rest pair =>
      intro c hc
      rw [escapedOf_append] at hc
      rcases (hescaped pair (by simp)).shape with ⟨htext, -⟩ | ⟨name, htext, -⟩
      · simp only [escapedOf, List.flatMap_cons, List.flatMap_nil, htext, List.append_nil,
          List.getLast?_append, List.getLast?_singleton, Option.some_or,
          Option.mem_some_iff] at hc
        exact hc ▸ hraw (h.2 pair (by simp)) htext
      · have hlast : (escapedOf rest ++ escapedOf [pair]).getLast? = some ';' := by
          simp only [escapedOf, List.flatMap_cons, List.flatMap_nil, htext, List.append_nil]
          rw [List.getLast?_append, ← List.cons_append, List.getLast?_append]
          rfl
        rw [hlast] at hc
        cases hc
        exact hsemicolon

/-- Trimming character data takes the characters away that are written as they are. -/
theorem trimList_escapedOf (hescaped : Escaped written) (hamp : p '&' = false)
    (hsemicolon : p ';' = false) :
    trimList p (escapedOf written) = escapedOf (trimList (isRaw p) written) := by
  obtain ⟨before, after, hsplit, hbefore, hafter⟩ := exists_trimList (isRaw p) written
  have hmem : ∀ pair ∈ trimList (isRaw p) written, pair ∈ written := by
    intro pair hpair
    rw [hsplit]
    exact List.mem_append_right _ (List.mem_append_left _ hpair)
  have hpieces : escapedOf written = escapedOf before ++
      (escapedOf (trimList (isRaw p) written) ++ escapedOf after) := by
    conv_lhs => rw [hsplit]
    rw [escapedOf_append, escapedOf_append]
  rw [hpieces]
  exact trimList_eq (forall_escapedOf_of_isRaw hbefore) (forall_escapedOf_of_isRaw hafter)
    (edgeFree_escapedOf (fun pair hpair => hescaped pair (hmem pair hpair)) hamp hsemicolon
      (edgeFree_trimList written))

/-- Trimming the content afterwards, nothing is lost. -/
theorem trimList_contentOf :
    trimList p (contentOf (trimList (isRaw p) written)) = trimList p (contentOf written) := by
  obtain ⟨before, after, hsplit, hbefore, hafter⟩ := exists_trimList (isRaw p) written
  have hpieces : contentOf written = contentOf before ++
      (contentOf (trimList (isRaw p) written) ++ contentOf after) := by
    conv_lhs => rw [hsplit]
    rw [contentOf_append, contentOf_append]
  rw [hpieces, trimList_append (forall_contentOf_of_isRaw hbefore)
    (forall_contentOf_of_isRaw hafter)]

end CharacterData

end Netdisk2Blob.Library
