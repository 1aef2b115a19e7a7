import Netdisk2Blob.Blob.Core
import Netdisk2Blob.ControlPlane.RepairRedaction
import Netdisk2Blob.Library.Results
import Netdisk2Blob.Library.Table
import Netdisk2Blob.Library.Templates

/-!
# Templates of Browser Flows

`bind_template_value` and what it is used for: texts with references to the inputs and to the
runtime values of a run. A template that is a single reference has the value that is referred
to; any other template is the text with the values written into it.

## Contents

- `BrowserFlowBindingContext`, `lookupTemplateValue`
- `bindTemplateValue`, `bindStringTemplate`, `bindJsonValue`
- `evaluate`: what a template means, by its pieces
- `bindTemplateValue_eq_ok_iff`: a template is bound to what its pieces mean
-/

namespace Netdisk2Blob.Flows

open Blob ControlPlane Library Text
open Library.Templates

/-! ## Section 1: Values -/

/-- `BTreeMap<String, Value>`. -/
abbrev ValueMap := Table (String × JsonValue) Prod.fst

def ValueMap.get (map : ValueMap) (key : String) : Option JsonValue :=
  (map.find? key).map Prod.snd

def ValueMap.insert (map : ValueMap) (key : String) (value : JsonValue) : ValueMap :=
  map.upsert (key, value)

structure BrowserFlowBindingContext where
  inputs : ValueMap
  runtime : ValueMap

/-- A character in the `Debug` text of a string. -/
def debugChar (c : Char) : String :=
  match c with
  | '"' => "\\\""
  | '\\' => "\\\\"
  | '\n' => "\\n"
  | '\r' => "\\r"
  | '\t' => "\\t"
  | '\x00' => "\\0"
  | c =>
    if c.toNat < 32 ∨ (127 ≤ c.toNat ∧ c.toNat < 160) then "\\u\x7b" ++ String.ofList (Nat.toDigits 16 c.toNat) ++ "\x7d"
    else String.ofList [c]

/-- The `Debug` text of a string. -/
def debugText (s : String) : String := "\"" ++ String.join (s.toList.map debugChar) ++ "\""

/-! ## Section 2: Binding -/

def openingMark : List Char := "\x7b\x7b".toList

def closingMark : List Char := "\x7d\x7d".toList

def lookupTemplateValue (token : String) (context : BrowserFlowBindingContext) :
    Except BlobError JsonValue :=
  match splitOnce '.' token with
  | none => .error (.configuration (s!"unsupported browser flow template reference {token}; " ++
      "expected inputs.<id> or runtime.<id>"))
  | some (scope, key) =>
    if (trim key).isEmpty then
      .error (.configuration
        s!"unsupported browser flow template reference {token}; missing key")
    else
      let missing : Except BlobError JsonValue :=
        .error (.configuration s!"missing browser flow {scope} value: {key}")
      if scope = "inputs" then (context.inputs.get key).elim missing .ok
      else if scope = "runtime" then (context.runtime.get key).elim missing .ok
      else .error (.configuration
        s!"unsupported browser flow template namespace {scope} in {token}")

def templateScalarToString (token : String) : JsonValue → Except BlobError String
  | .null => .error (.configuration s!"browser flow template {token} resolved to null")
  | .string value => .ok value
  | .bool value => .ok (toString value)
  | .number text => .ok text
  | .array _ | .object _ => .error (.configuration
      s!"browser flow template {token} resolved to a non-scalar JSON value")

inductive Segment where
  | literal (text : String)
  | placeholder (token : String) (value : JsonValue)

/-- The segment of the text before a placeholder; there is none where the text is empty. -/
def literalSegment (text : List Char) : List Segment :=
  if text.isEmpty then [] else [.literal (String.ofList text)]

/-- The loop over the placeholders, from the cursor on; the text behind the last one is left. -/
def templateSegments (raw : String) (context : BrowserFlowBindingContext) (rest : List Char) :
    Except BlobError (List Segment × List Char) :=
  match _hstart : findText openingMark rest with
  | none => .ok ([], rest)
  | some start =>
    let behind := rest.drop (start + openingMark.length)
    match findText closingMark behind with
    | none => .error (.configuration s!"unterminated browser flow template: {raw}")
    | some stop => do
      let token := trim (String.ofList (behind.take stop))
      let value ← lookupTemplateValue token context
      let later ← templateSegments raw context
        (rest.drop (start + openingMark.length + stop + closingMark.length))
      .ok (literalSegment (rest.take start) ++ .placeholder token value :: later.1, later.2)
termination_by rest.length
decreasing_by
  have hne : rest ≠ [] := by
    rintro rfl
    cases _hstart
  have hpos := List.length_pos_of_ne_nil hne
  have hmark : openingMark.length = 2 := rfl
  rw [List.length_drop]
  omega

def renderSegments : List Segment → Except BlobError String
  | [] => .ok ""
  | .literal text :: segments => do
    let later ← renderSegments segments
    .ok (text ++ later)
  | .placeholder token value :: segments => do
    let text ← templateScalarToString token value
    let later ← renderSegments segments
    .ok (text ++ later)

def bindTemplateValue (raw : String) (context : BrowserFlowBindingContext) :
    Except BlobError JsonValue := do
  let found ← templateSegments raw context raw.toList
  if found.1.isEmpty then .ok (.string raw)
  else
    match found.1 ++ literalSegment found.2 with
    | [.placeholder _ value] => .ok value
    | segments => do
      let rendered ← renderSegments segments
      .ok (.string rendered)

def bindStringTemplate (raw : String) (context : BrowserFlowBindingContext) :
    Except BlobError String := do
  match ← bindTemplateValue raw context with
  | .null => .ok ""
  | .string value => .ok value
  | .bool value => .ok (toString value)
  | .number text => .ok text
  | .array _ | .object _ => .error (.configuration
      s!"template {debugText raw} resolved to a non-scalar JSON value")

mutual

def bindJsonValue (context : BrowserFlowBindingContext) : JsonValue → Except BlobError JsonValue
  | .null => .ok .null
  | .bool value => .ok (.bool value)
  | .number text => .ok (.number text)
  | .string raw => bindTemplateValue raw context
  | .array items => do
    let bound ← bindJsonValues context items
    .ok (.array bound)
  | .object map => do
    let bound ← bindJsonEntries context map
    .ok (.object bound)

def bindJsonValues (context : BrowserFlowBindingContext) :
    List JsonValue → Except BlobError (List JsonValue)
  | [] => .ok []
  | item :: items => do
    let bound ← bindJsonValue context item
    let later ← bindJsonValues context items
    .ok (bound :: later)

def bindJsonEntries (context : BrowserFlowBindingContext) :
    List (String × JsonValue) → Except BlobError (List (String × JsonValue))
  | [] => .ok []
  | (key, value) :: map => do
    let bound ← bindJsonValue context value
    let later ← bindJsonEntries context map
    .ok ((key, bound) :: later)

end

/-! ## Section 3: What a template means -/

def pieceText (context : BrowserFlowBindingContext) : Piece → Except BlobError String
  | .literal text => .ok (String.ofList text)
  | .reference token => do
    let value ← lookupTemplateValue (trim (String.ofList token)) context
    templateScalarToString (trim (String.ofList token)) value

/-- The text with the values written into it. -/
def piecesText (context : BrowserFlowBindingContext) : List Piece → Except BlobError String
  | [] => .ok ""
  | piece :: pieces => do
    let text ← pieceText context piece
    let later ← piecesText context pieces
    .ok (text ++ later)

/-- A single reference means the value it refers to; anything else means a text. -/
def evaluate (context : BrowserFlowBindingContext) : List Piece → Except BlobError JsonValue
  | [.reference token] => lookupTemplateValue (trim (String.ofList token)) context
  | pieces => do
    let text ← piecesText context pieces
    .ok (.string text)

/-- The text is written with these pieces. -/
def WrittenAs (raw : String) (pieces : List Piece) : Prop :=
  WellFormed openingMark closingMark pieces ∧
    write openingMark closingMark pieces = raw.toList

/-! ## Section 4: Binding is evaluation -/

section Evaluation

variable {context : BrowserFlowBindingContext} {raw : String} {text : List Char}

/-- The value of a reference, with the reference; a literal text as it stands. -/
def resolve (context : BrowserFlowBindingContext) : Piece → Except BlobError Segment
  | .literal text => .ok (.literal (String.ofList text))
  | .reference token => do
    let value ← lookupTemplateValue (trim (String.ofList token)) context
    .ok (.placeholder (trim (String.ofList token)) value)

def resolveAll (context : BrowserFlowBindingContext) : List Piece → Except BlobError (List Segment)
  | [] => .ok []
  | piece :: pieces => do
    let segment ← resolve context piece
    let later ← resolveAll context pieces
    .ok (segment :: later)

theorem resolveAll_literalOf (text : List Char) (pieces : List Piece) :
    resolveAll context (literalOf text ++ pieces) =
      (resolveAll context pieces).map (literalSegment text ++ ·) := by
  rw [literalOf, literalSegment]
  cases text with
  | nil =>
      simp only [↓reduceIte, List.nil_append, List.isEmpty_nil]
      cases resolveAll context pieces <;> rfl
  | cons c text =>
      simp only [reduceCtorEq, ↓reduceIte, List.isEmpty_cons, Bool.false_eq_true]
      show (resolveAll context pieces >>= fun later => _) = _
      cases resolveAll context pieces <;> rfl

/-- The loop resolves the pieces up to the last reference and leaves the text behind it. -/
theorem templateSegments_of_scans {pieces : List Piece}
    (h : Scans openingMark closingMark text pieces) :
    ∃ front tail, pieces = front ++ literalOf tail ∧ (front = [] → tail = text) ∧
      templateSegments raw context text = (resolveAll context front).map (·, tail) := by
  induction h with
  | @done text hnone =>
      refine ⟨[], text, rfl, fun _ => rfl, ?_⟩
      rw [templateSegments]
      split
      · rfl
      · rename_i start hstart
        rw [hnone] at hstart
        cases hstart
  | @reference text start stop pieces hstart hstop hrest ih =>
      obtain ⟨front, tail, rfl, -, hloop⟩ := ih
      refine ⟨literalOf (text.take start) ++
        .reference ((text.drop (start + openingMark.length)).take stop) :: front, tail,
        by simp, by simp, ?_⟩
      rw [templateSegments]
      split
      · rename_i hnone
        rw [hnone] at hstart
        cases hstart
      · rename_i start' hstart'
        rw [hstart] at hstart'
        cases hstart'
        rw [resolveAll_literalOf]
        dsimp only
        rw [hstop]
        dsimp only
        rw [hloop, resolveAll, resolve]
        -- the reference is looked up first, and what is behind it is read next
        cases lookupTemplateValue (trim (String.ofList
            ((text.drop (start + openingMark.length)).take stop))) context with
        | error error => rfl
        | ok value =>
            cases resolveAll context front with
            | error error => rfl
            | ok segments => rfl

/-- A text that the loop accepts can be read to its end. -/
theorem scans_of_templateSegments {found : List Segment × List Char}
    (h : templateSegments raw context text = .ok found) :
    ∃ pieces, Scans openingMark closingMark text pieces := by
  induction hlength : text.length using Nat.strong_induction_on generalizing text found with
  | _ length ih =>
      rw [templateSegments] at h
      split at h
      · rename_i hnone
        exact ⟨_, Scans.done hnone⟩
      · rename_i start hstart
        dsimp only at h
        split at h
        · cases h
        · rename_i stop hstop
          obtain ⟨value, -, h⟩ := except_bind_ok.mp h
          obtain ⟨later, hlater, -⟩ := except_bind_ok.mp h
          have hne : text ≠ [] := by
            rintro rfl
            cases hstart
          have hshorter : (text.drop (start + openingMark.length + stop +
              closingMark.length)).length < length := by
            have hpos := List.length_pos_of_ne_nil hne
            have hmark : openingMark.length = 2 := rfl
            rw [List.length_drop]
            omega
          obtain ⟨pieces, hpieces⟩ := ih _ hshorter hlater rfl
          exact ⟨_, Scans.reference hstart hstop hpieces⟩

@[simp] theorem except_bind {α β : Type} (a : α) (f : α → Except BlobError β) :
    ((.ok a : Except BlobError α) >>= f) = f a := rfl

/-- Where a piece cannot be resolved the template has no text. -/
theorem piecesText_of_resolveAll_error {front rest : List Piece} {error : BlobError}
    (h : resolveAll context front = .error error) :
    ∃ error', piecesText context (front ++ rest) = .error error' := by
  induction front with
  | nil => cases h
  | cons piece front ih =>
      rw [List.cons_append, piecesText]
      rw [resolveAll] at h
      cases hpiece : pieceText context piece with
      | error error' => exact ⟨error', rfl⟩
      | ok text =>
          -- a piece with a text is resolved, so the error comes from what is behind it
          have hresolved : ∃ segment, resolve context piece = .ok segment := by
            cases piece with
            | literal text => exact ⟨_, rfl⟩
            | reference token =>
                obtain ⟨value, hvalue, -⟩ := except_bind_ok.mp hpiece
                exact ⟨_, by rw [resolve, hvalue]; rfl⟩
          obtain ⟨segment, hsegment⟩ := hresolved
          have hlater : resolveAll context front = .error error := by
            rw [hsegment] at h
            cases hrest : resolveAll context front with
            | error error' =>
                rw [hrest] at h
                exact h
            | ok segments =>
                rw [hrest] at h
                cases h
          obtain ⟨error', herror⟩ := ih hlater
          exact ⟨error', by rw [herror]; rfl⟩

/-- The rendered segments are the text of the pieces. -/
theorem renderSegments_eq {pieces : List Piece} {segments : List Segment}
    (h : resolveAll context pieces = .ok segments) :
    renderSegments segments = piecesText context pieces := by
  induction pieces generalizing segments with
  | nil =>
      cases h
      rfl
  | cons piece pieces ih =>
      rw [resolveAll] at h
      obtain ⟨segment, hsegment, h⟩ := except_bind_ok.mp h
      obtain ⟨later, hlater, h⟩ := except_bind_ok.mp h
      cases h
      rw [piecesText, ← ih hlater]
      cases piece with
      | literal text =>
          cases hsegment
          rfl
      | reference token =>
          obtain ⟨value, hvalue, hsegment⟩ := except_bind_ok.mp hsegment
          cases hsegment
          rw [renderSegments, pieceText, hvalue]
          rfl

/-- The text without a reference is bound to itself. -/
theorem evaluate_literalOf (text : List Char) :
    evaluate context (literalOf text) = .ok (.string (String.ofList text)) := by
  rw [literalOf]
  split_ifs with htext
  · rw [htext]
    rfl
  · show Except.ok (JsonValue.string (String.ofList text ++ "")) = _
    rw [String.append_empty]

/-- More than one piece means a text. -/
theorem evaluate_of_length {pieces : List Piece} (h : 2 ≤ pieces.length) :
    evaluate context pieces = (piecesText context pieces).map .string := by
  rw [evaluate]
  · cases piecesText context pieces <;> rfl
  · rintro token rfl
    simp at h

theorem resolveAll_length {pieces : List Piece} {segments : List Segment}
    (h : resolveAll context pieces = .ok segments) : segments.length = pieces.length := by
  induction pieces generalizing segments with
  | nil =>
      cases h
      rfl
  | cons piece pieces ih =>
      rw [resolveAll] at h
      obtain ⟨segment, -, h⟩ := except_bind_ok.mp h
      obtain ⟨later, hlater, h⟩ := except_bind_ok.mp h
      cases h
      simp [ih hlater]

theorem resolveAll_append_literalOf {front : List Piece} {segments : List Segment}
    (h : resolveAll context front = .ok segments) (tail : List Char) :
    resolveAll context (front ++ literalOf tail) = .ok (segments ++ literalSegment tail) := by
  induction front generalizing segments with
  | nil =>
      cases h
      have hnil := @resolveAll_literalOf context tail []
      rw [List.append_nil] at hnil
      rw [List.nil_append, hnil]
      simp [resolveAll, Except.map]
  | cons piece front ih =>
      rw [resolveAll] at h
      obtain ⟨segment, hsegment, h⟩ := except_bind_ok.mp h
      obtain ⟨later, hlater, h⟩ := except_bind_ok.mp h
      cases h
      rw [List.cons_append, resolveAll, hsegment, ih hlater]
      rfl

/-- A template that is not longer than one piece is a single piece before its last text. -/
theorem exists_single {front : List Piece} {tail : List Char} (hne : front ≠ [])
    (hlength : ¬ 2 ≤ (front ++ literalOf tail).length) :
    ∃ piece, front = [piece] ∧ literalOf tail = [] := by
  have hpos := List.length_pos_of_ne_nil hne
  rw [List.length_append] at hlength
  have hfront : front.length = 1 := by omega
  have htail : (literalOf tail).length = 0 := by omega
  obtain ⟨piece, hpiece⟩ := List.length_eq_one_iff.mp hfront
  exact ⟨piece, hpiece, List.eq_nil_of_length_eq_zero htail⟩

/-- Where a piece cannot be resolved the template means nothing. -/
theorem evaluate_of_resolveAll_error {front : List Piece} {tail : List Char} {error : BlobError}
    (h : resolveAll context front = .error error) :
    ∃ error', evaluate context (front ++ literalOf tail) = .error error' := by
  have hne : front ≠ [] := by
    rintro rfl
    cases h
  by_cases hlength : 2 ≤ (front ++ literalOf tail).length
  · obtain ⟨error', herror⟩ := @piecesText_of_resolveAll_error _ _ (literalOf tail) _ h
    exact ⟨error', by rw [evaluate_of_length hlength, herror]; rfl⟩
  · obtain ⟨piece, rfl, hnil⟩ := exists_single hne hlength
    rw [hnil, List.append_nil]
    cases piece with
    | literal text => cases h
    | reference token =>
        show ∃ error', lookupTemplateValue (trim (String.ofList token)) context = .error error'
        rw [resolveAll, resolve] at h
        cases hvalue : lookupTemplateValue (trim (String.ofList token)) context with
        | error error' => exact ⟨error', rfl⟩
        | ok value =>
            rw [hvalue] at h
            cases h

/-- What is made of the segments is what the pieces mean. -/
theorem finish_eq_evaluate {front : List Piece} {tail : List Char} {segments : List Segment}
    (hne : front ≠ []) (h : resolveAll context front = .ok segments) :
    (match segments ++ literalSegment tail with
      | [.placeholder _ value] => .ok value
      | segments => do
        let rendered ← renderSegments segments
        .ok (.string rendered) : Except BlobError JsonValue) =
      evaluate context (front ++ literalOf tail) := by
  have hall := resolveAll_append_literalOf h tail
  have htotal := resolveAll_length hall
  by_cases hlength : 2 ≤ (front ++ literalOf tail).length
  · rw [evaluate_of_length hlength, ← renderSegments_eq hall]
    split
    · rename_i token value hsingle
      rw [hsingle] at htotal
      rw [← htotal] at hlength
      simp at hlength
    · cases renderSegments (segments ++ literalSegment tail) <;> rfl
  · obtain ⟨piece, rfl, hnil⟩ := exists_single hne hlength
    rw [hnil, List.append_nil] at hall ⊢
    rw [resolveAll] at hall
    obtain ⟨segment, hsegment, hall⟩ := except_bind_ok.mp hall
    obtain hall := Except.ok.inj hall
    rw [← hall]
    cases piece with
    | literal text =>
        cases hsegment
        rfl
    | reference token =>
        obtain ⟨value, hvalue, hsegment⟩ := except_bind_ok.mp hsegment
        cases hsegment
        show _ = lookupTemplateValue (trim (String.ofList token)) context
        rw [hvalue]

/-- A template with its pieces is bound to what these mean, or to nothing. -/
theorem bindTemplateValue_of_writtenAs {pieces : List Piece} (h : WrittenAs raw pieces) :
    (bindTemplateValue raw context).toOption = (evaluate context pieces).toOption := by
  have hscan : Scans openingMark closingMark raw.toList pieces :=
    (scans_iff (by decide) (by decide)).mpr h
  obtain ⟨front, tail, rfl, hfirst, hloop⟩ := @templateSegments_of_scans context raw _ _ hscan
  rw [bindTemplateValue, hloop]
  cases hresolve : resolveAll context front with
  | error error =>
      obtain ⟨error', herror⟩ := @evaluate_of_resolveAll_error _ _ tail _ hresolve
      rw [herror]
      rfl
  | ok segments =>
      have hcount := resolveAll_length hresolve
      simp only [Except.map, except_bind]
      by_cases hempty : front = []
      · have hnone : segments.isEmpty = true := by
          rw [List.isEmpty_iff_length_eq_zero, hcount, hempty]
          rfl
        rw [if_pos hnone, hfirst hempty, hempty, List.nil_append, evaluate_literalOf,
          String.ofList_toList]
      · have hsome : ¬ segments.isEmpty = true := by
          rw [List.isEmpty_iff_length_eq_zero, hcount, List.length_eq_zero_iff]
          exact hempty
        rw [if_neg hsome, finish_eq_evaluate hempty hresolve]

end Evaluation

/-- **Meaning of templates.** Whatever the text: it is bound to a value exactly when it can be
written with pieces, in one way at most, that mean this value. -/
theorem bindTemplateValue_eq_ok_iff (raw : String) (context : BrowserFlowBindingContext)
    (value : JsonValue) :
    (bindTemplateValue raw context = .ok value ↔
      ∃ pieces, WrittenAs raw pieces ∧ evaluate context pieces = .ok value) ∧
    ∀ pieces pieces', WrittenAs raw pieces → WrittenAs raw pieces' → pieces = pieces' := by
  have hok : ∀ {x : Except BlobError JsonValue}, x.toOption = some value ↔ x = .ok value := by
    intro x
    cases x <;> simp [Except.toOption]
  refine ⟨⟨?_, ?_⟩, ?_⟩
  · intro h
    rw [bindTemplateValue] at h
    obtain ⟨found, hfound, -⟩ := except_bind_ok.mp h
    obtain ⟨pieces, hpieces⟩ := scans_of_templateSegments hfound
    have hwritten : WrittenAs raw pieces := (scans_iff (by decide) (by decide)).mp hpieces
    refine ⟨pieces, hwritten, ?_⟩
    rw [← hok, ← bindTemplateValue_of_writtenAs hwritten, hok]
    rw [bindTemplateValue]
    exact h
  · rintro ⟨pieces, hwritten, hvalue⟩
    rw [← hok, bindTemplateValue_of_writtenAs hwritten, hok]
    exact hvalue
  · intro pieces pieces' h h'
    apply write_injective (by decide) (by decide) h.1 h'.1
    rw [h.2, h'.2]

end Netdisk2Blob.Flows
