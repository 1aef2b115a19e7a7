import Netdisk2Blob.Gateway.Requests
import Netdisk2Blob.Library.Panics
import Netdisk2Blob.Library.PathText
import Netdisk2Blob.Library.XmlText

/-!
# The Parts of a Complete Request

The body of `CompleteMultipartUpload` lists part numbers and entity tags as XML.
`parse_complete_parts_xml` looks for the tags one by one, and cuts the text where it found
them; `xml_unescape` undoes the escaping of an entity tag.

## Contents

- `xmlEscape`, `xmlUnescape`: `xmlUnescape_escapedOf`, what escaped characters are read as
- `readPart`, `parseCompletePartsXml`: the parser
- `readPart_eq_panics`, `partsLoop_eq_panics`: when a cut is out of order
- `CompleteRequest`: the ways to write a list of parts
- `completePartsXml_iff`: when the parser returns, and returns what was written
-/

namespace Netdisk2Blob.Gateway

open Library Text

/-! ## Section 1: Escaped characters -/

/-- `str::replace` of a character. -/
def replaceChar (c : Char) (replacement : String) (text : List Char) : List Char :=
  text.flatMap fun d => if d = c then replacement.toList else [d]

def xmlEscapeChars (input : List Char) : List Char :=
  replaceChar '\'' "&apos;" (replaceChar '"' "&quot;" (replaceChar '>' "&gt;"
    (replaceChar '<' "&lt;" (replaceChar '&' "&amp;" input))))

def xmlEscape (input : String) : String := String.ofList (xmlEscapeChars input.toList)

/-- `char::from_u32`. -/
def charFromU32 (n : Nat) : Option Char := if n.isValidChar then some (Char.ofNat n) else none

/-- The number that a name gives, in hexadecimal or decimal digits. -/
def numericEntity (name : List Char) : Option Nat :=
  if name.take 2 = ['#', 'x'] ∨ name.take 2 = ['#', 'X'] then parseHex u32Max (name.drop 2)
  else if name.take 1 = ['#'] then parseUnsigned u32Max (String.ofList (name.drop 1))
  else none

/-- The character that a name between `&` and `;` stands for. -/
def unescapeEntity (name : List Char) : Option Char :=
  match xmlEntities.lookup name with
  | some c => some c
  | none => (numericEntity name).bind charFromU32

/-- The loop of `xml_unescape`; every round takes an ampersand from the text, so that as many
rounds as it has characters are enough. -/
def unescapeLoop : Nat → List Char → List Char → Except S3Error (List Char)
  | 0, output, rest => .ok (output ++ rest)
  | fuel + 1, output, rest =>
    match findText ['&'] rest with
    | none => .ok (output ++ rest)
    | some start =>
      let entity := rest.drop (start + 1)
      match findText [';'] entity with
      | none => .error
          (.invalidRequest "Malformed XML entity in CompleteMultipartUpload ETag.")
      | some stop =>
        match unescapeEntity (entity.take stop) with
        | none => .error
            (.invalidRequest "Unsupported XML entity in CompleteMultipartUpload ETag.")
        | some c => unescapeLoop fuel (output ++ rest.take start ++ [c]) (entity.drop (stop + 1))

def xmlUnescape (input : String) : Except S3Error String :=
  (unescapeLoop input.toList.length [] input.toList).map String.ofList

theorem charFromU32_toNat (c : Char) : charFromU32 c.toNat = some c := by
  have hvalid : c.toNat.isValidChar := c.valid
  rw [charFromU32, if_pos hvalid, Char.ofNat_toNat]

theorem lookup_xmlEntities_numeric (digits : List Char) :
    xmlEntities.lookup ('#' :: digits) = none := by
  have hnames : ∀ pair ∈ xmlEntities, pair.1.head? ≠ some '#' := by decide
  rw [List.lookup_eq_none_iff]
  intro pair hpair
  rw [bne_iff_ne]
  intro hname
  exact hnames pair hpair (by rw [← hname]; rfl)

/-- The name in a written-out character stands for the character. -/
theorem unescapeEntity_of_escapedAs {c : Char} {name : List Char}
    (h : EscapedAs c ('&' :: (name ++ [';']))) : unescapeEntity name = some c := by
  generalize htext : '&' :: (name ++ [';']) = text at h
  cases h with
  | raw => simp at htext
  | entity hentity =>
    have hnames : ∀ pair ∈ xmlEntities, unescapeEntity pair.1 = some pair.2 := by decide
    obtain rfl := List.append_cancel_right (List.cons.inj htext).2
    exact hnames _ hentity
  | @decimal digits hdigits hvalue =>
    obtain rfl : name = '#' :: digits := List.append_cancel_right (List.cons.inj htext).2
    -- a decimal digit is no `x`
    have hx : ¬ (('#' :: digits).take 2 = ['#', 'x'] ∨ ('#' :: digits).take 2 = ['#', 'X']) := by
      cases digits with
      | nil => decide
      | cons d digits =>
        have hd : d.isDigit = true := List.all_eq_true.mp hdigits d List.mem_cons_self
        rintro (htake | htake)
        · obtain rfl : d = 'x' := by simpa using htake
          exact absurd hd (by decide)
        · obtain rfl : d = 'X' := by simpa using htake
          exact absurd hd (by decide)
    have hnumber : numericEntity ('#' :: digits) = some c.toNat := by
      rw [numericEntity, if_neg hx, if_pos (show ('#' :: digits).take 1 = ['#'] from rfl)]
      exact hvalue
    rw [unescapeEntity, lookup_xmlEntities_numeric]
    simp only [hnumber, Option.bind_some, charFromU32_toNat]
  | @hexadecimal digits hdigits hvalue =>
    obtain rfl : name = '#' :: 'x' :: digits := List.append_cancel_right (List.cons.inj htext).2
    have hnumber : numericEntity ('#' :: 'x' :: digits) = some c.toNat := by
      have hx : ('#' :: 'x' :: digits).take 2 = ['#', 'x'] := rfl
      rw [numericEntity, if_pos (Or.inl hx)]
      exact hvalue
    rw [unescapeEntity, lookup_xmlEntities_numeric]
    simp only [hnumber, Option.bind_some, charFromU32_toNat]

theorem unescapeLoop_raw {fuel : Nat} {output rest : List Char} {c : Char} (hc : c ≠ '&') :
    unescapeLoop fuel output (c :: rest) = unescapeLoop fuel (output ++ [c]) rest := by
  cases fuel with
  | zero => simp [unescapeLoop]
  | succ fuel =>
    have hmem : '&' ∉ [c] := by simpa using hc.symm
    have hskip : findText ['&'] (c :: rest) = (findText ['&'] rest).map (1 + ·) :=
      findText_skip hmem rest
    rw [unescapeLoop, unescapeLoop, hskip]
    cases findText ['&'] rest with
    | none => simp
    | some start =>
      simp only [Option.map_some, Nat.add_comm 1 start, List.take_succ_cons, List.drop_succ_cons,
        List.append_assoc, List.cons_append, List.nil_append]

theorem unescapeLoop_entity {fuel : Nat} {output rest name : List Char} {c : Char}
    (hname : ';' ∉ name) (hc : unescapeEntity name = some c) :
    unescapeLoop (fuel + 1) output ('&' :: (name ++ [';']) ++ rest) =
      unescapeLoop fuel (output ++ [c]) rest := by
  have hstart : findText ['&'] ('&' :: (name ++ [';']) ++ rest) = some 0 :=
    findText_append ['&'] (name ++ [';'] ++ rest)
  have hstop : findText [';'] (name ++ ([';'] ++ rest)) = some name.length := by
    rw [findText_skip hname, findText_append]
    rfl
  have hentity : ('&' :: (name ++ [';']) ++ rest).drop (0 + 1) = name ++ ([';'] ++ rest) := by
    simp
  rw [unescapeLoop, hstart]
  simp only [hentity, hstop, List.take_zero, List.append_nil]
  rw [List.take_left' rfl, hc, ← List.append_assoc, List.drop_left' (by simp)]

/-- **Character data is read as the characters that are written.** -/
theorem unescapeLoop_escapedOf {written : List (Char × List Char)} (hescaped : Escaped written)
    {fuel : Nat} (hfuel : written.length ≤ fuel) (output : List Char) :
    unescapeLoop fuel output (escapedOf written) = .ok (output ++ contentOf written) := by
  induction written generalizing fuel output with
  | nil =>
    cases fuel with
    | zero => rfl
    | succ fuel => rfl
  | cons pair written ih =>
    obtain ⟨hpair, hrest⟩ := List.forall_mem_cons.mp hescaped
    have hlength : written.length + 1 ≤ fuel := hfuel
    have hcontent : ∀ output, output ++ [pair.1] ++ contentOf written =
        output ++ contentOf (pair :: written) := by
      intro output
      rw [List.append_assoc]
      rfl
    have htext : escapedOf (pair :: written) = pair.2 ++ escapedOf written := List.flatMap_cons
    rw [htext, ← hcontent]
    rcases hpair.shape with ⟨hraw, -, hamp⟩ | ⟨name, hentity, -, hsemicolon⟩
    · rw [hraw, List.singleton_append, unescapeLoop_raw hamp]
      exact ih hrest (by omega) _
    · obtain ⟨fuel, rfl⟩ := Nat.exists_eq_add_of_lt (Nat.lt_of_lt_of_le (Nat.succ_pos _) hlength)
      rw [Nat.zero_add] at hlength ⊢
      rw [hentity, unescapeLoop_entity hsemicolon
        (unescapeEntity_of_escapedAs (hentity ▸ hpair))]
      exact ih hrest (by omega) _

theorem length_le_escapedOf {written : List (Char × List Char)} (hescaped : Escaped written) :
    written.length ≤ (escapedOf written).length := by
  induction written with
  | nil => exact Nat.le_refl _
  | cons pair written ih =>
    obtain ⟨hpair, hrest⟩ := List.forall_mem_cons.mp hescaped
    have htext : escapedOf (pair :: written) = pair.2 ++ escapedOf written := List.flatMap_cons
    have hne : 0 < pair.2.length := by
      rcases hpair.shape with ⟨hraw, -⟩ | ⟨name, hentity, -⟩
      · rw [hraw]
        exact Nat.succ_pos _
      · rw [hentity]
        exact Nat.succ_pos _
    have hlength := ih hrest
    rw [htext, List.length_append, List.length_cons]
    omega

theorem xmlUnescape_escapedOf {written : List (Char × List Char)} (hescaped : Escaped written) :
    xmlUnescape (String.ofList (escapedOf written)) = .ok (String.ofList (contentOf written)) := by
  rw [xmlUnescape, String.toList_ofList,
    unescapeLoop_escapedOf hescaped (length_le_escapedOf hescaped)]
  rfl

/-- What `xml_escape` writes for a character. -/
def escapedChar (c : Char) : List Char := xmlEscapeChars [c]

theorem replaceChar_flatMap (c : Char) (replacement : String) (f : Char → List Char)
    (input : List Char) : replaceChar c replacement (input.flatMap f) =
      input.flatMap fun d => replaceChar c replacement (f d) :=
  List.flatMap_assoc

theorem replaceChar_of_ne {c d : Char} {replacement : String} (h : d ≠ c) :
    replaceChar c replacement [d] = [d] := by
  rw [replaceChar, List.flatMap_singleton, if_neg h]

theorem xmlEscapeChars_eq (input : List Char) : xmlEscapeChars input = input.flatMap escapedChar := by
  conv_lhs => rw [← List.flatMap_singleton' input]
  simp only [xmlEscapeChars, replaceChar_flatMap]
  rfl

/-- What `xml_escape` writes is a way to write the character. -/
theorem escapedAs_escapedChar (c : Char) : EscapedAs c (escapedChar c) := by
  have hentity : ∀ name, (name, c) ∈ xmlEntities → escapedChar c = '&' :: (name ++ [';']) →
      EscapedAs c (escapedChar c) := by
    intro name hname htext
    rw [htext]
    exact .entity hname
  by_cases hamp : c = '&'
  · subst hamp
    exact hentity "amp".toList (by decide) (by decide)
  by_cases hlt : c = '<'
  · subst hlt
    exact hentity "lt".toList (by decide) (by decide)
  by_cases hgt : c = '>'
  · subst hgt
    exact hentity "gt".toList (by decide) (by decide)
  by_cases hquot : c = '"'
  · subst hquot
    exact hentity "quot".toList (by decide) (by decide)
  by_cases hapos : c = '\''
  · subst hapos
    exact hentity "apos".toList (by decide) (by decide)
  · have htext : escapedChar c = [c] := by
      rw [escapedChar, xmlEscapeChars, replaceChar_of_ne hamp, replaceChar_of_ne hlt,
        replaceChar_of_ne hgt, replaceChar_of_ne hquot, replaceChar_of_ne hapos]
    rw [htext]
    exact .raw hlt hamp

/-- **Unescaping inverts escaping.** -/
theorem xmlUnescape_xmlEscape (input : String) : xmlUnescape (xmlEscape input) = .ok input := by
  have hescaped : Escaped (input.toList.map fun c => (c, escapedChar c)) := by
    intro pair hpair
    obtain ⟨c, -, rfl⟩ := List.mem_map.mp hpair
    exact escapedAs_escapedChar c
  have htext : xmlEscapeChars input.toList =
      escapedOf (input.toList.map fun c => (c, escapedChar c)) := by
    rw [xmlEscapeChars_eq, escapedOf, List.flatMap_map]
  have hcontent : contentOf (input.toList.map fun c => (c, escapedChar c)) = input.toList := by
    rw [contentOf, List.map_map]
    exact List.map_id _
  rw [xmlEscape, htext, xmlUnescape_escapedOf hescaped, hcontent, String.ofList_toList]

/-! ## Section 2: The parser -/

/-- The position of a tag, which must be there. -/
def requireTag (tag message : String) (item : List Char) : Panicking S3Error Nat :=
  match findText tag.toList item with
  | some start => .returns start
  | none => .fails (.invalidRequest message)

def parsePartNumber (text : List Char) : Panicking S3Error Nat :=
  match parseUnsigned u32Max (trim (String.ofList text)) with
  | some partNumber => .returns partNumber
  | none => .fails (.invalidRequest "PartNumber must be an integer.")

/-- What stands between `<ETag>` and `</ETag>`, read as an entity tag. -/
def readEtag (text : List Char) : Panicking S3Error String := do
  let etag ← .ofExcept (xmlUnescape (trim (String.ofList text)))
  .returns (trimMatches '"' (trim etag))

/-- What stands between `<Part>` and `</Part>`. The two cuts are made between positions that
were found independently of each other. -/
def readPart (item : List Char) : Panicking S3Error (Nat × String) := do
  let partNumberStart ←
    requireTag "<PartNumber>" "Missing PartNumber in Complete request." item
  let partNumberEnd ←
    requireTag "</PartNumber>" "Malformed PartNumber in Complete request." item
  let etagStart ← requireTag "<ETag>" "Missing ETag in Complete request." item
  let etagEnd ← requireTag "</ETag>" "Malformed ETag in Complete request." item
  let partNumberText ← slice item (partNumberStart + "<PartNumber>".length) partNumberEnd
  let partNumber ← parsePartNumber partNumberText
  let etagText ← slice item (etagStart + "<ETag>".length) etagEnd
  let etag ← readEtag etagText
  .returns (partNumber, etag)

/-- The loop of `parse_complete_parts_xml`; every round takes a tag from the text, so that as
many rounds as it has characters are enough. -/
def partsLoop : Nat → List Char → List (Nat × String) → Panicking S3Error (List (Nat × String))
  | 0, _, parts => .returns parts
  | fuel + 1, rest, parts =>
    match findText "<Part>".toList rest with
    | none => .returns parts
    | some start =>
      let rest := rest.drop (start + "<Part>".length)
      match findText "</Part>".toList rest with
      | none => .fails (.invalidRequest "Malformed CompleteMultipartUpload XML.")
      | some stop => do
        let part ← readPart (rest.take stop)
        partsLoop fuel (rest.drop (stop + "</Part>".length)) (parts ++ [part])

def parseCompletePartsXml (xml : String) : Panicking S3Error (List (Nat × String)) := do
  let parts ← partsLoop xml.toList.length xml.toList []
  if parts.isEmpty then
    .fails (.invalidRequest "CompleteMultipartUpload must include at least one Part.")
  else .returns parts

/-! ## Section 3: Tags out of order -/

/-- The texts between `<Part>` and `</Part>`, in order. -/
def partItems : Nat → List Char → List (List Char)
  | 0, _ => []
  | fuel + 1, rest =>
    match findText "<Part>".toList rest with
    | none => []
    | some start =>
      let rest := rest.drop (start + "<Part>".length)
      match findText "</Part>".toList rest with
      | none => []
      | some stop => rest.take stop :: partItems fuel (rest.drop (stop + "</Part>".length))

/-- All four tags are there, and the first closing tag of the part number, or behind a number
that can be read the one of the entity tag, stands ahead of the end of its opening tag. -/
def TagsReversed (item : List Char) : Prop :=
  ∃ partNumberStart partNumberEnd etagStart etagEnd,
    findText "<PartNumber>".toList item = some partNumberStart ∧
      findText "</PartNumber>".toList item = some partNumberEnd ∧
      findText "<ETag>".toList item = some etagStart ∧
      findText "</ETag>".toList item = some etagEnd ∧
      (partNumberEnd < partNumberStart + "<PartNumber>".length ∨
        (∃ partNumber, parsePartNumber ((item.take partNumberEnd).drop
          (partNumberStart + "<PartNumber>".length)) = .returns partNumber) ∧
          etagEnd < etagStart + "<ETag>".length)

theorem findText_le {pattern text : List Char} {start : Nat}
    (h : findText pattern text = some start) : start ≤ text.length := by
  induction text generalizing start with
  | nil =>
    rw [findText] at h
    split at h
    · cases h
      exact Nat.le_refl _
    · cases h
  | cons c text ih =>
    rw [findText] at h
    split at h
    · cases h
      exact Nat.zero_le _
    · obtain ⟨n, hn, rfl⟩ := Option.map_eq_some_iff.mp h
      exact Nat.succ_le_succ (ih hn)

theorem requireTag_eq_returns {tag message : String} {item : List Char} {start : Nat} :
    requireTag tag message item = .returns start ↔ findText tag.toList item = some start := by
  unfold requireTag
  cases findText tag.toList item <;> simp

theorem requireTag_ne_panics {tag message : String} {item : List Char} :
    requireTag tag message item ≠ .panics := by
  unfold requireTag
  cases findText tag.toList item <;> simp

theorem parsePartNumber_ne_panics {text : List Char} : parsePartNumber text ≠ .panics := by
  unfold parsePartNumber
  split <;> simp

theorem readEtag_ne_panics {text : List Char} : readEtag text ≠ .panics := by
  simp [readEtag, Panicking.bind_eq_panics]

/-- Reading a part panics exactly when its tags are out of order. -/
theorem readPart_eq_panics {item : List Char} : readPart item = .panics ↔ TagsReversed item := by
  simp only [readPart, Panicking.bind_eq_panics, requireTag_ne_panics, requireTag_eq_returns,
    parsePartNumber_ne_panics, readEtag_ne_panics, Panicking.returns_ne_panics, false_or,
    and_false, exists_false, or_false]
  constructor
  · rintro ⟨partNumberStart, hpartNumberStart, partNumberEnd, hpartNumberEnd, etagStart, hetagStart,
      etagEnd, hetagEnd, hcut⟩
    refine ⟨partNumberStart, partNumberEnd, etagStart, etagEnd, hpartNumberStart, hpartNumberEnd,
      hetagStart, hetagEnd, ?_⟩
    rcases hcut with hcut | ⟨text, htext, partNumber, hnumber, hcut⟩
    · exact Or.inl ((slice_eq_panics (findText_le hpartNumberEnd)).mp hcut)
    · obtain ⟨-, rfl⟩ := (slice_eq_returns (findText_le hpartNumberEnd)).mp htext
      exact Or.inr ⟨⟨partNumber, hnumber⟩, (slice_eq_panics (findText_le hetagEnd)).mp hcut⟩
  · rintro ⟨partNumberStart, partNumberEnd, etagStart, etagEnd, hpartNumberStart, hpartNumberEnd,
      hetagStart, hetagEnd, hcut⟩
    refine ⟨partNumberStart, hpartNumberStart, partNumberEnd, hpartNumberEnd, etagStart, hetagStart,
      etagEnd, hetagEnd, ?_⟩
    by_cases horder : partNumberEnd < partNumberStart + "<PartNumber>".length
    · exact Or.inl ((slice_eq_panics (findText_le hpartNumberEnd)).mpr horder)
    · obtain ⟨⟨partNumber, hnumber⟩, hetag⟩ := hcut.resolve_left horder
      exact Or.inr ⟨_, (slice_eq_returns (findText_le hpartNumberEnd)).mpr
        ⟨Nat.le_of_not_lt horder, rfl⟩, partNumber, hnumber,
        (slice_eq_panics (findText_le hetagEnd)).mpr hetag⟩

/-- Some part has its tags out of order, and the parts before it are read. -/
def ReachesReversedTags (items : List (List Char)) : Prop :=
  ∃ before item after, items = before ++ item :: after ∧
    (∀ earlier ∈ before, ∃ part, readPart earlier = .returns part) ∧ TagsReversed item

theorem reachesReversedTags_cons {item : List Char} {items : List (List Char)} :
    ReachesReversedTags (item :: items) ↔
      TagsReversed item ∨ (∃ part, readPart item = .returns part) ∧ ReachesReversedTags items := by
  constructor
  · rintro ⟨before, reversed, after, hsplit, hread, hreversed⟩
    cases before with
    | nil =>
      obtain ⟨rfl, -⟩ := List.cons.inj hsplit
      exact Or.inl hreversed
    | cons first before =>
      obtain ⟨rfl, rfl⟩ := List.cons.inj hsplit
      obtain ⟨hfirst, hbefore⟩ := List.forall_mem_cons.mp hread
      exact Or.inr ⟨hfirst, before, reversed, after, rfl, hbefore, hreversed⟩
  · rintro (hreversed | ⟨hfirst, before, reversed, after, rfl, hbefore, hreversed⟩)
    · exact ⟨[], item, items, rfl, fun _ h => absurd h List.not_mem_nil, hreversed⟩
    · exact ⟨item :: before, reversed, after, rfl, List.forall_mem_cons.mpr ⟨hfirst, hbefore⟩,
        hreversed⟩

/-- The loop panics exactly when it reaches such a part. -/
theorem partsLoop_eq_panics {fuel : Nat} {rest : List Char} {parts : List (Nat × String)} :
    partsLoop fuel rest parts = .panics ↔ ReachesReversedTags (partItems fuel rest) := by
  have hnil : ¬ ReachesReversedTags [] := by
    rintro ⟨before, item, after, hsplit, -⟩
    simp at hsplit
  induction fuel generalizing rest parts with
  | zero => simp [partsLoop, partItems, hnil]
  | succ fuel ih =>
    rw [partsLoop, partItems]
    cases findText "<Part>".toList rest with
    | none => simp [hnil]
    | some start =>
      dsimp only
      generalize rest.drop (start + "<Part>".length) = rest
      cases findText "</Part>".toList rest with
      | none => simp [hnil]
      | some stop =>
        dsimp only
        rw [Panicking.bind_eq_panics, readPart_eq_panics, reachesReversedTags_cons]
        simp only [ih, exists_and_right]

/-- **The parser cuts no text out of order exactly when it reaches no reversed tags.** -/
theorem parseCompletePartsXml_ne_panics (xml : String) :
    parseCompletePartsXml xml ≠ .panics ↔
      ¬ ReachesReversedTags (partItems xml.toList.length xml.toList) := by
  have hloop : partsLoop xml.toList.length xml.toList [] = .panics ↔
      ReachesReversedTags (partItems xml.toList.length xml.toList) := partsLoop_eq_panics
  rw [not_iff_not, ← hloop, parseCompletePartsXml, Panicking.bind_eq_panics]
  constructor
  · rintro (hloop | ⟨parts, -, hend⟩)
    · exact hloop
    · split at hend
      · exact absurd hend (by simp)
      · exact absurd hend (by simp)
  · exact Or.inl

/-! ## Section 4: Written requests -/

/-- White space of XML. -/
def isXmlSpace (c : Char) : Bool := c = ' ' || c = '\t' || c = '\n' || c = '\r'

/-- A part as a client may write it: a number in decimal digits, and an entity tag, quoted or
not, whose characters may be escaped, in either order and with white space around them. -/
structure PartRendering where
  number : Nat
  etag : List Char
  quoted : Bool
  digits : List Char
  written : List (Char × List Char)
  numberFirst : Bool
  before : List Char
  between : List Char
  after : List Char
  number_bounds : 1 ≤ number ∧ number ≤ 10000
  digits_decimal : digits.all Char.isDigit = true
  digits_value : parseUnsigned u32Max (String.ofList digits) = some number
  escaped : Escaped written
  content : contentOf written = if quoted then '"' :: (etag ++ ['"']) else etag
  before_space : before.all isXmlSpace = true
  between_space : between.all isXmlSpace = true
  after_space : after.all isXmlSpace = true

namespace PartRendering

def element (name body : List Char) : List Markup := [.tag name, .text body, .tag ('/' :: name)]

/-- What stands between `<Part>` and `</Part>`. -/
def inner (part : PartRendering) : List Markup :=
  let number := element "PartNumber".toList part.digits
  let etag := element "ETag".toList (escapedOf part.written)
  if part.numberFirst then
    .text part.before :: (number ++ .text part.between :: (etag ++ [.text part.after]))
  else .text part.before :: (etag ++ .text part.between :: (number ++ [.text part.after]))

def markup (part : PartRendering) : List Markup :=
  .tag "Part".toList :: (part.inner ++ [.tag "/Part".toList])

end PartRendering

/-- A request: what stands before the parts (the declaration, the opening tag of the root and
white space), the parts, each with the white space behind it, and what stands behind them. -/
structure CompleteRequest where
  head : List Markup
  parts : List (PartRendering × List Char)
  tail : List Markup
  head_valid : ∀ markup ∈ head, markup.Valid
  head_tags : .tag "Part".toList ∉ head
  spaces : ∀ part ∈ parts, part.2.all isXmlSpace = true
  tail_valid : ∀ markup ∈ tail, markup.Valid
  tail_tags : .tag "Part".toList ∉ tail

namespace CompleteRequest

/-- The parts with what stands behind them. -/
def partsAndTail (parts : List (PartRendering × List Char)) (tail : List Markup) : List Markup :=
  parts.flatMap (fun part => part.1.markup ++ [.text part.2]) ++ tail

def render (request : CompleteRequest) : String :=
  String.ofList (renderAll (request.head ++ partsAndTail request.parts request.tail))

/-- The list that is written. -/
def contents (request : CompleteRequest) : List (Nat × String) :=
  request.parts.map fun part => (part.1.number, String.ofList part.1.etag)

end CompleteRequest

theorem not_mem_of_isXmlSpace {text : List Char} (h : text.all isXmlSpace = true) : '<' ∉ text :=
  fun hmem => absurd (List.all_eq_true.mp h '<' hmem) (by decide)

theorem not_mem_of_isDigit {text : List Char} (h : text.all Char.isDigit = true) : '<' ∉ text :=
  fun hmem => absurd (List.all_eq_true.mp h '<' hmem) (by decide)

/-- The two cuts of an element give what is written in it. -/
theorem slice_element {name body : List Char} {before after : List Markup} {text : List Char}
    (htext : text = renderAll (before ++ (PartRendering.element name body ++ after)))
    (hname : (Markup.tag name).Valid) (hbody : (Markup.text body).Valid)
    (hvalid : ∀ markup ∈ before, markup.Valid) (hopen : .tag name ∉ before)
    (hclose : .tag ('/' :: name) ∉ before) :
    ∃ start stop, findText (tagText name) text = some start ∧
      findText (tagText ('/' :: name)) text = some stop ∧
      (slice text (start + (tagText name).length) stop : Panicking S3Error (List Char)) =
        .returns body := by
  have hpieces : text = renderAll before ++
      (tagText name ++ (body ++ (tagText ('/' :: name) ++ renderAll after))) := by
    rw [htext]
    simp [PartRendering.element, Markup.render]
  have hupto : renderAll (before ++ [.tag name, .text body]) =
      renderAll before ++ (tagText name ++ body) := by
    simp [Markup.render]
  have huptoValid : ∀ markup ∈ before ++ [.tag name, .text body], markup.Valid :=
    List.forall_mem_append.mpr ⟨hvalid, by simpa using ⟨hname, hbody⟩⟩
  have huptoClose : .tag ('/' :: name) ∉ before ++ [.tag name, .text body] := by simpa using hclose
  have hstart := findText_renderAll hname.2 hvalid hopen
    (body ++ (tagText ('/' :: name) ++ renderAll after))
  have hstop := findText_renderAll (by simpa using hname.2) huptoValid huptoClose (renderAll after)
  have hcut := slice_append (ε := S3Error) (renderAll before ++ tagText name) body
    (tagText ('/' :: name) ++ renderAll after)
  rw [hupto] at hstop
  simp only [List.append_assoc, List.length_append, ← Nat.add_assoc] at hstop hcut
  rw [hpieces]
  exact ⟨_, _, hstart, hstop, hcut⟩

section Parts

variable (part : PartRendering)

/-- The entity tag as the parser reads it: the quotation marks at both ends are taken away, and
the blanks around it when it is not quoted. -/
def PartRendering.readAs : List Char :=
  trimList (fun c => decide (c = '"')) (trimList isWhitespace (contentOf part.written))

theorem isWhitespace_of_isDigit {c : Char} (h : c.isDigit = true) : isWhitespace c = false := by
  simp only [Char.isDigit, ge_iff_le, Bool.and_eq_true, decide_eq_true_eq] at h
  have hlow : 48 ≤ c.toNat := h.1
  have hhigh : c.toNat ≤ 57 := h.2
  unfold isWhitespace
  generalize c.toNat = n at hlow hhigh
  simp
  omega

theorem trim_digits {digits : List Char} (h : digits.all Char.isDigit = true) :
    trim (String.ofList digits) = String.ofList digits := by
  have hblank : ∀ c ∈ digits, isWhitespace c = false :=
    fun c hc => isWhitespace_of_isDigit (List.all_eq_true.mp h c hc)
  have hfree : EdgeFree isWhitespace digits :=
    ⟨fun c hc => hblank c (List.mem_of_mem_head? hc),
      fun c hc => hblank c (List.mem_of_mem_getLast? hc)⟩
  rw [trim, String.toList_ofList, trimList_of_edgeFree hfree]

theorem parsePartNumber_digits : parsePartNumber part.digits = .returns part.number := by
  unfold parsePartNumber
  rw [trim_digits part.digits_decimal]
  simp only [part.digits_value]

theorem readEtag_written :
    readEtag (escapedOf part.written) = .returns (String.ofList part.readAs) := by
  have htrim : trim (String.ofList (escapedOf part.written)) =
      String.ofList (escapedOf (trimList (isRaw isWhitespace) part.written)) := by
    rw [trim, String.toList_ofList, trimList_escapedOf part.escaped (by decide) (by decide)]
  have hescaped : Escaped (trimList (isRaw isWhitespace) part.written) :=
    fun pair hpair => part.escaped pair ((trimList_sublist part.written).subset hpair)
  rw [readEtag, htrim, xmlUnescape_escapedOf hescaped, Panicking.ofExcept_ok,
    Panicking.returns_bind, trim, String.toList_ofList, trimList_contentOf, trimMatches,
    String.toList_ofList, PartRendering.readAs]

/-- The text of an element is found between its tags. -/
def CutOut (text name body : List Char) : Prop :=
  ∃ start stop, findText (tagText name) text = some start ∧
    findText (tagText ('/' :: name)) text = some stop ∧
    (slice text (start + (tagText name).length) stop : Panicking S3Error (List Char)) =
      .returns body

/-- Both elements of a part are found, whichever comes first. -/
theorem cutOut_two {first second body body' before between after : List Char}
    (hfirst : (Markup.tag first).Valid) (hsecond : (Markup.tag second).Valid)
    (hdistinct : first ≠ second ∧ first ≠ '/' :: second ∧ second ≠ '/' :: first)
    (hbody : '<' ∉ body) (hbody' : '<' ∉ body') (hbefore : '<' ∉ before)
    (hbetween : '<' ∉ between) {text : List Char}
    (htext : text = renderAll (.text before :: (PartRendering.element first body ++
      .text between :: (PartRendering.element second body' ++ [.text after])))) :
    CutOut text first body ∧ CutOut text second body' := by
  constructor
  · have hvalid : ∀ markup ∈ [Markup.text before], markup.Valid := by
      simpa using (show (Markup.text before).Valid from hbefore)
    exact slice_element htext hfirst hbody hvalid (by simp) (by simp)
  · have hclosing : (Markup.tag ('/' :: first)).Valid := by simpa [Markup.Valid] using hfirst
    have hvalid : ∀ markup ∈ .text before :: (PartRendering.element first body ++
        [.text between]), markup.Valid := by
      simpa [PartRendering.element] using ⟨hbefore, hfirst, hbody, hclosing, hbetween⟩
    have hsplit : text = renderAll ((.text before :: (PartRendering.element first body ++
        [.text between])) ++ (PartRendering.element second body' ++ [.text after])) := by
      rw [htext]
      simp
    refine slice_element hsplit hsecond hbody' hvalid ?_ ?_
    · simpa [PartRendering.element] using ⟨hdistinct.1.symm, hdistinct.2.2⟩
    · simpa [PartRendering.element] using ⟨hdistinct.2.1.symm, hdistinct.1.symm⟩

theorem readPart_of_cutOut {text digits written : List Char} {number : Nat} {etag : String}
    (hnumber : CutOut text "PartNumber".toList digits) (hetag : CutOut text "ETag".toList written)
    (hparse : parsePartNumber digits = .returns number)
    (hread : readEtag written = .returns etag) : readPart text = .returns (number, etag) := by
  obtain ⟨numberStart, numberStop, hnumberStart, hnumberStop, hnumberCut⟩ := hnumber
  obtain ⟨etagStart, etagStop, hetagStart, hetagStop, hetagCut⟩ := hetag
  have htags : tagText "PartNumber".toList = "<PartNumber>".toList ∧
      tagText ('/' :: "PartNumber".toList) = "</PartNumber>".toList ∧
      tagText "ETag".toList = "<ETag>".toList ∧
      tagText ('/' :: "ETag".toList) = "</ETag>".toList := by decide
  rw [htags.1] at hnumberStart hnumberCut
  rw [htags.2.1] at hnumberStop
  rw [htags.2.2.1] at hetagStart hetagCut
  rw [htags.2.2.2] at hetagStop
  rw [String.length_toList] at hnumberCut hetagCut
  rw [readPart, requireTag_eq_returns.mpr hnumberStart, Panicking.returns_bind,
    requireTag_eq_returns.mpr hnumberStop, Panicking.returns_bind,
    requireTag_eq_returns.mpr hetagStart, Panicking.returns_bind,
    requireTag_eq_returns.mpr hetagStop, Panicking.returns_bind, hnumberCut,
    Panicking.returns_bind, hparse, Panicking.returns_bind, hetagCut, Panicking.returns_bind,
    hread, Panicking.returns_bind]

/-- **What is written in a part is read.** -/
theorem readPart_inner :
    readPart (renderAll part.inner) = .returns (part.number, String.ofList part.readAs) := by
  have hdigits := not_mem_of_isDigit part.digits_decimal
  have hetag := not_mem_escapedOf part.escaped
  have hbefore := not_mem_of_isXmlSpace part.before_space
  have hbetween := not_mem_of_isXmlSpace part.between_space
  cases hfirst : part.numberFirst with
  | true =>
    have hinner : renderAll part.inner = renderAll (.text part.before ::
        (PartRendering.element "PartNumber".toList part.digits ++ .text part.between ::
          (PartRendering.element "ETag".toList (escapedOf part.written) ++
            [.text part.after]))) := by
      rw [PartRendering.inner, hfirst]
      rfl
    obtain ⟨hnumber, htag⟩ := cutOut_two (by decide) (by decide) (by decide) hdigits hetag hbefore
      hbetween hinner
    exact readPart_of_cutOut hnumber htag (parsePartNumber_digits part) (readEtag_written part)
  | false =>
    have hinner : renderAll part.inner = renderAll (.text part.before ::
        (PartRendering.element "ETag".toList (escapedOf part.written) ++ .text part.between ::
          (PartRendering.element "PartNumber".toList part.digits ++ [.text part.after]))) := by
      rw [PartRendering.inner, hfirst]
      rfl
    obtain ⟨htag, hnumber⟩ := cutOut_two (by decide) (by decide) (by decide) hetag hdigits hbefore
      hbetween hinner
    exact readPart_of_cutOut hnumber htag (parsePartNumber_digits part) (readEtag_written part)

end Parts

/-! ## Section 5: Reading a written request -/

theorem inner_valid (part : PartRendering) : ∀ markup ∈ part.inner, markup.Valid := by
  have hbefore : (Markup.text part.before).Valid := not_mem_of_isXmlSpace part.before_space
  have hbetween : (Markup.text part.between).Valid := not_mem_of_isXmlSpace part.between_space
  have hafter : (Markup.text part.after).Valid := not_mem_of_isXmlSpace part.after_space
  have hdigits : (Markup.text part.digits).Valid := not_mem_of_isDigit part.digits_decimal
  have hetag : (Markup.text (escapedOf part.written)).Valid := not_mem_escapedOf part.escaped
  have htags : (Markup.tag "PartNumber".toList).Valid ∧ (Markup.tag ('/' :: "PartNumber".toList)).Valid ∧
      (Markup.tag "ETag".toList).Valid ∧ (Markup.tag ('/' :: "ETag".toList)).Valid := by decide
  obtain ⟨hnumberOpen, hnumberClose, hetagOpen, hetagClose⟩ := htags
  have hnumber : ∀ markup ∈ PartRendering.element "PartNumber".toList part.digits,
      markup.Valid := by
    rw [PartRendering.element]
    exact List.forall_mem_cons.mpr ⟨hnumberOpen, List.forall_mem_cons.mpr ⟨hdigits,
      List.forall_mem_singleton.mpr hnumberClose⟩⟩
  have hwritten : ∀ markup ∈ PartRendering.element "ETag".toList (escapedOf part.written),
      markup.Valid := by
    rw [PartRendering.element]
    exact List.forall_mem_cons.mpr ⟨hetagOpen, List.forall_mem_cons.mpr ⟨hetag,
      List.forall_mem_singleton.mpr hetagClose⟩⟩
  rw [PartRendering.inner]
  split
  · exact List.forall_mem_cons.mpr ⟨hbefore, List.forall_mem_append.mpr ⟨hnumber,
      List.forall_mem_cons.mpr ⟨hbetween, List.forall_mem_append.mpr ⟨hwritten,
        List.forall_mem_singleton.mpr hafter⟩⟩⟩⟩
  · exact List.forall_mem_cons.mpr ⟨hbefore, List.forall_mem_append.mpr ⟨hwritten,
      List.forall_mem_cons.mpr ⟨hbetween, List.forall_mem_append.mpr ⟨hnumber,
        List.forall_mem_singleton.mpr hafter⟩⟩⟩⟩

theorem inner_tags (part : PartRendering) : .tag "/Part".toList ∉ part.inner := by
  rw [PartRendering.inner]
  split <;> simp [PartRendering.element]

/-- One round of the loop reads one part. -/
theorem partsLoop_part {fuel : Nat} {head : List Markup} {rest : List Char}
    {parts : List (Nat × String)} (part : PartRendering)
    (hvalid : ∀ markup ∈ head, markup.Valid) (htags : .tag "Part".toList ∉ head) :
    partsLoop (fuel + 1) (renderAll head ++ (renderAll part.markup ++ rest)) parts =
      partsLoop fuel rest (parts ++ [(part.number, String.ofList part.readAs)]) := by
  have hopening : tagText "Part".toList = "<Part>".toList := by decide
  have hclosing : tagText "/Part".toList = "</Part>".toList := by decide
  have hmarkup : renderAll part.markup ++ rest =
      "<Part>".toList ++ (renderAll part.inner ++ ("</Part>".toList ++ rest)) := by
    rw [← hopening, ← hclosing]
    simp [PartRendering.markup, Markup.render]
  have hstart : findText "<Part>".toList (renderAll head ++ (renderAll part.markup ++ rest)) =
      some (renderAll head).length := by
    rw [hmarkup, ← hopening]
    exact findText_renderAll (by decide) hvalid htags _
  have hdrop : (renderAll head ++ (renderAll part.markup ++ rest)).drop
      ((renderAll head).length + "<Part>".length) =
        renderAll part.inner ++ ("</Part>".toList ++ rest) := by
    rw [hmarkup, ← String.length_toList, List.drop_append, List.drop_of_length_le (by omega),
      Nat.add_sub_cancel_left, List.drop_left' rfl, List.nil_append]
  have hstop : findText "</Part>".toList (renderAll part.inner ++ ("</Part>".toList ++ rest)) =
      some (renderAll part.inner).length := by
    rw [← hclosing]
    exact findText_renderAll (by decide) (inner_valid part) (inner_tags part) _
  have hrest : (renderAll part.inner ++ ("</Part>".toList ++ rest)).drop
      ((renderAll part.inner).length + "</Part>".length) = rest := by
    rw [← String.length_toList, List.drop_append, List.drop_of_length_le (by omega),
      Nat.add_sub_cancel_left, List.drop_left' rfl, List.nil_append]
  rw [partsLoop, hstart]
  simp only [hdrop, hstop, hrest]
  rw [List.take_left' rfl, readPart_inner, Panicking.returns_bind]

/-- **The loop reads the parts of a written request one by one.** -/
theorem partsLoop_written {parts : List (PartRendering × List Char)} {head tail : List Markup}
    {fuel : Nat} {read : List (Nat × String)} (hfuel : parts.length ≤ fuel)
    (hvalid : ∀ markup ∈ head, markup.Valid) (htags : .tag "Part".toList ∉ head)
    (hspaces : ∀ part ∈ parts, part.2.all isXmlSpace = true)
    (htailValid : ∀ markup ∈ tail, markup.Valid) (htailTags : .tag "Part".toList ∉ tail) :
    partsLoop fuel (renderAll (head ++ CompleteRequest.partsAndTail parts tail)) read =
      .returns (read ++ parts.map fun part =>
        (part.1.number, String.ofList part.1.readAs)) := by
  induction parts generalizing head fuel read with
  | nil =>
    have hnone : findText "<Part>".toList (renderAll (head ++ tail)) = none := by
      rw [show "<Part>".toList = tagText "Part".toList by decide]
      exact findText_renderAll_eq_none (by decide) (List.forall_mem_append.mpr ⟨hvalid, htailValid⟩)
        (by simpa using ⟨htags, htailTags⟩)
    cases fuel with
    | zero => simp [partsLoop]
    | succ fuel =>
      simp only [partsLoop, CompleteRequest.partsAndTail, List.flatMap_nil, List.nil_append, hnone,
        List.map_nil, List.append_nil]
  | cons part parts ih =>
    obtain ⟨hspace, hspaces⟩ := List.forall_mem_cons.mp hspaces
    obtain ⟨fuel, rfl⟩ := Nat.exists_eq_add_of_lt (Nat.lt_of_lt_of_le (Nat.succ_pos _) hfuel)
    rw [Nat.zero_add] at hfuel ⊢
    have hgap : ∀ markup ∈ [Markup.text part.2], markup.Valid :=
      List.forall_mem_singleton.mpr (not_mem_of_isXmlSpace hspace)
    have hsplit : renderAll (head ++ CompleteRequest.partsAndTail (part :: parts) tail) =
        renderAll head ++ (renderAll part.1.markup ++
          renderAll ([.text part.2] ++ CompleteRequest.partsAndTail parts tail)) := by
      simp [CompleteRequest.partsAndTail]
    have hlength : parts.length ≤ fuel := Nat.le_of_succ_le_succ hfuel
    rw [hsplit, partsLoop_part part.1 hvalid htags, ih hlength hgap (by simp) hspaces]
    simp

theorem length_parts_le (request : CompleteRequest) :
    request.parts.length ≤ request.render.toList.length := by
  have hparts : ∀ parts : List (PartRendering × List Char),
      parts.length ≤ (renderAll (CompleteRequest.partsAndTail parts request.tail)).length := by
    intro parts
    induction parts with
    | nil => exact Nat.zero_le _
    | cons part parts ih =>
      have hsplit : renderAll (CompleteRequest.partsAndTail (part :: parts) request.tail) =
          '<' :: ("Part>".toList ++ renderAll (part.1.inner ++ [.tag "/Part".toList, .text part.2]) ++
            renderAll (CompleteRequest.partsAndTail parts request.tail)) := by
        simp [CompleteRequest.partsAndTail, PartRendering.markup, Markup.render, tagText]
      rw [hsplit]
      simp only [List.length_cons, List.length_append]
      omega
  have hlength := hparts request.parts
  rw [CompleteRequest.render, String.toList_ofList, renderAll_append, List.length_append]
  omega

/-- What a written request is read as. -/
theorem parseCompletePartsXml_render (request : CompleteRequest) :
    parseCompletePartsXml request.render =
      if request.parts = [] then
        .fails (.invalidRequest "CompleteMultipartUpload must include at least one Part.")
      else .returns (request.parts.map fun part =>
        (part.1.number, String.ofList part.1.readAs)) := by
  have htext : request.render.toList =
      renderAll (request.head ++ CompleteRequest.partsAndTail request.parts request.tail) :=
    String.toList_ofList
  have hloop : partsLoop request.render.toList.length request.render.toList [] =
      .returns (request.parts.map fun part => (part.1.number, String.ofList part.1.readAs)) := by
    have hlength := length_parts_le request
    rw [htext] at hlength ⊢
    exact partsLoop_written hlength request.head_valid request.head_tags request.spaces
      request.tail_valid request.tail_tags
  rw [parseCompletePartsXml, hloop, Panicking.returns_bind]
  cases request.parts <;> rfl

/-! ## Section 6: What is read exactly -/

/-- The entity tag neither begins nor ends with a quotation mark nor, unless it is quoted, with
a blank. -/
def PlainEtag (part : PartRendering) : Prop :=
  EdgeFree (fun c => decide (c = '"')) part.etag ∧
    (part.quoted = false → EdgeFree isWhitespace part.etag)

/-- Nothing is trimmed away twice only if nothing is trimmed away at all. -/
theorem trimList_trimList_eq_self {p q : Char → Bool} {l : List Char} :
    trimList p (trimList q l) = l ↔ EdgeFree p l ∧ EdgeFree q l := by
  constructor
  · intro h
    have hinner : trimList q l = l :=
      (trimList_sublist l).antisymm (by
        conv_lhs => rw [← h]
        exact trimList_sublist (trimList q l))
    rw [hinner] at h
    exact ⟨trimList_eq_self_iff.mp h, trimList_eq_self_iff.mp hinner⟩
  · rintro ⟨hp, hq⟩
    rw [trimList_of_edgeFree hq, trimList_of_edgeFree hp]

theorem readAs_eq_etag (part : PartRendering) : part.readAs = part.etag ↔ PlainEtag part := by
  rw [PartRendering.readAs, part.content, PlainEtag]
  cases part.quoted with
  | false =>
    simp only [Bool.false_eq_true, ↓reduceIte, forall_const]
    exact trimList_trimList_eq_self
  | true =>
    have hquotes : EdgeFree isWhitespace ('"' :: (part.etag ++ ['"'])) := by
      constructor
      · intro c hc
        cases hc
        decide
      · intro c hc
        rw [← List.cons_append, List.getLast?_append] at hc
        cases hc
        decide
    have hmarks : ∀ c ∈ ['"'], decide (c = '"') = true := List.forall_mem_singleton.mpr rfl
    simp only [↓reduceIte, Bool.true_eq_false, false_implies, and_true]
    rw [trimList_of_edgeFree hquotes, ← List.singleton_append, trimList_append hmarks hmarks]
    exact trimList_eq_self_iff

/-- **The parts of a complete request.** The parser cuts no text out of order exactly when it
reaches no part with reversed tags; it reads the list that was written exactly when there is a
part and every entity tag is plain; and unescaping inverts escaping. -/
theorem completePartsXml_iff (xml input : String) (request : CompleteRequest) :
    (parseCompletePartsXml xml ≠ .panics ↔
      ¬ ReachesReversedTags (partItems xml.toList.length xml.toList)) ∧
    (parseCompletePartsXml request.render = .returns request.contents ↔
      request.parts ≠ [] ∧ ∀ part ∈ request.parts, PlainEtag part.1) ∧
    xmlUnescape (xmlEscape input) = .ok input := by
  refine ⟨parseCompletePartsXml_ne_panics xml, ?_, xmlUnescape_xmlEscape input⟩
  rw [parseCompletePartsXml_render, CompleteRequest.contents]
  split
  · rename_i hnone
    simp [hnone]
  · rename_i hsome
    rw [Panicking.returns_inj, List.map_inj_left]
    simp only [Prod.mk.injEq, true_and, String.ofList_inj, readAs_eq_etag, hsome, ne_eq,
      not_false_eq_true]

/-- A closing tag ahead of the opening one. -/
theorem reversed_tags_panic :
    parseCompletePartsXml "<Part></PartNumber><PartNumber>1<ETag>a</ETag></Part>" = .panics := by
  decide

end Netdisk2Blob.Gateway
