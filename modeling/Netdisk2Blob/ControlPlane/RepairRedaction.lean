import Netdisk2Blob.Library.LongRuns
import Netdisk2Blob.Library.Text

/-!
# Redaction of Repair Bundles

`redact_browser_flow_repair_text` writes a marker for every run of seven or more digits and then
another one for every token with an at sign or with 24 or more letters or digits. The first pass
changes the tokens that the second one counts: a long run counts 14 characters behind it.

## Contents

- `redactBrowserFlowRepairText`, `redactBrowserFlowRepairValue`
- `segments_redactDigits`: the first pass goes token by token
- `clean_redact`, `redact_redact`: what a redacted text does not contain, and that redacting it
  again changes nothing
- `shownToken_eq_iff`: when two tokens are shown alike
- `redaction_hides_iff`: when two inputs that differ in what is to be hidden are shown alike
-/

namespace Netdisk2Blob.ControlPlane

open Library Text

/-! ## Section 1: The two passes -/

def redactedDigits : List Char := "<redacted-digits>".toList

/-- The end of a digit run. -/
def pushDigitRun (output digitRun : List Char) : List Char :=
  if digitRun.isEmpty then output
  else if 7 ≤ digitRun.length then output ++ redactedDigits
  else output ++ digitRun

/-- The loop over the characters. -/
def redactDigits (output digitRun : List Char) : List Char → List Char
  | [] => pushDigitRun output digitRun
  | ch :: rest =>
    if ch.isDigit then redactDigits output (digitRun ++ [ch]) rest
    else redactDigits (pushDigitRun output digitRun ++ [ch]) [] rest

def isSecretToken (token : String) : Bool :=
  token.toList.contains '@' || decide (24 ≤ token.toList.countP Char.isAlphanum)

def redactToken (token : String) : String :=
  if isSecretToken token then "<redacted-token>" else token

def redactBrowserFlowRepairText (value : String) : String :=
  " ".intercalate
    ((splitWhitespace (String.ofList (redactDigits [] [] value.toList))).map redactToken)

/-- `serde_json::Value`; a number as its text. -/
inductive JsonValue where
  | null
  | bool (value : Bool)
  | number (text : String)
  | string (value : String)
  | array (values : List JsonValue)
  | object (map : List (String × JsonValue))

mutual

def redactBrowserFlowRepairValue : JsonValue → JsonValue
  | .string value => .string (redactBrowserFlowRepairText value)
  | .array values => .array (redactValues values)
  | .object map => .object (redactEntries map)
  | .null => .null
  | .bool value => .bool value
  | .number text => .number text

def redactValues : List JsonValue → List JsonValue
  | [] => []
  | value :: values => redactBrowserFlowRepairValue value :: redactValues values

def redactEntries : List (String × JsonValue) → List (String × JsonValue)
  | [] => []
  | (key, value) :: map => (key, redactBrowserFlowRepairValue value) :: redactEntries map

end

/-! ## Section 2: The first pass, token by token -/

/-- The text with every run of seven or more digits as one hole. -/
def digitMask (text : List Char) : List (Option Char) := maskRuns Char.isDigit 7 [] text

/-- The text behind the first pass. -/
def marked (text : List Char) : List Char := fillHoles redactedDigits (digitMask text)

theorem redactedDigits_not_digit : ∀ c ∈ redactedDigits, c.isDigit = false := by
  have hall : redactedDigits.all (fun c => !c.isDigit) = true := by decide
  intro c hc
  simpa using List.all_eq_true.mp hall c hc

theorem redactedDigits_not_whitespace : ∀ c ∈ redactedDigits, isWhitespace c = false := by
  have hall : redactedDigits.all (fun c => !isWhitespace c) = true := by decide
  intro c hc
  simpa using List.all_eq_true.mp hall c hc

/-- A digit is not whitespace. -/
theorem not_isWhitespace_of_isDigit (c : Char) (h : c.isDigit = true) : isWhitespace c = false := by
  have hdigit : 48 ≤ c.toNat ∧ c.toNat ≤ 57 := by
    simpa [Char.isDigit, UInt32.le_iff_toNat_le] using h
  unfold isWhitespace
  simp only [Bool.or_eq_false_iff, Bool.and_eq_false_iff, decide_eq_false_iff_not, beq_eq_false_iff_ne]
  omega

theorem pushDigitRun_eq (output run : List Char) :
    pushDigitRun output run = output ++ fillHoles redactedDigits (runPieces 7 run) := by
  rw [fillHoles_runPieces]
  unfold pushDigitRun
  cases run with
  | nil => simp
  | cons c run =>
      rw [if_neg (by simp)]
      split <;> rfl

/-- The loop fills the holes of the mask. -/
theorem redactDigits_eq (output run text : List Char) :
    redactDigits output run text =
      output ++ fillHoles redactedDigits (maskRuns Char.isDigit 7 run text) := by
  induction text generalizing output run with
  | nil => exact pushDigitRun_eq output run
  | cons c text ih =>
      rw [redactDigits, maskRuns]
      split
      · exact ih output (run ++ [c])
      · rw [ih, pushDigitRun_eq, fillHoles_append, fillHoles_some, List.append_assoc,
          List.append_assoc]
        rfl

/-- The parts of a text between its whitespace characters, the empty ones included. -/
def segments (text : List Char) : List (List Char) := text.splitOnP isWhitespace

theorem segments_marked (text : List Char) : segments (marked text) = (segments text).map marked :=
  splitOnP_fillHoles redactedDigits_not_whitespace not_isWhitespace_of_isDigit text

theorem marked_eq_nil {text : List Char} : marked text = [] ↔ text = [] :=
  fillHoles_maskRuns_eq_nil (by decide) (by decide)

theorem noLongRun_marked (text : List Char) : NoLongRun Char.isDigit 7 (marked text) :=
  noLongRun_fillHoles (by decide) redactedDigits_not_digit [] text

theorem marked_eq_self {text : List Char} (h : NoLongRun Char.isDigit 7 text) :
    marked text = text := by
  rw [marked, digitMask, maskRuns_of_noLongRun (by simp) h, List.nil_append, fillHoles_map_some]

theorem mem_at_marked {text : List Char} : '@' ∈ marked text ↔ '@' ∈ text :=
  mem_fillHoles_maskRuns (by decide) (by decide) (by simp)

/-! ## Section 3: Shown tokens -/

/-- Every run of seven or more digits counts 14 letters here, those of its marker. -/
def readCount (mask : List (Option Char)) : Nat :=
  (mask.map fun piece =>
    match piece with
    | some c => if c.isAlphanum then 1 else 0
    | none => 14).sum

theorem countP_marked (text : List Char) :
    (marked text).countP Char.isAlphanum = readCount (digitMask text) := by
  rw [marked, countP_fillHoles, readCount]
  congr 1
  refine List.map_congr_left ?_
  intro piece _
  cases piece with
  | some c => rfl
  | none =>
      show redactedDigits.countP Char.isAlphanum = 14
      decide

/-- A token that is to be hidden: it has an at sign or 24 letters or digits. -/
def IsSecret (token : List Char) : Prop := '@' ∈ token ∨ 24 ≤ token.countP Char.isAlphanum

/-- A token that is still hidden behind the first pass: it has an at sign, or 24 letters or digits
when every run of seven or more digits counts 14. -/
def StaysSecret (token : List Char) : Prop := '@' ∈ token ∨ 24 ≤ readCount (digitMask token)

instance (token : List Char) : Decidable (IsSecret token) := inferInstanceAs (Decidable (_ ∨ _))

instance (token : List Char) : Decidable (StaysSecret token) := inferInstanceAs (Decidable (_ ∨ _))

theorem isSecretToken_iff {token : List Char} :
    isSecretToken (String.ofList token) = true ↔ IsSecret token := by
  unfold isSecretToken IsSecret
  simp only [String.toList_ofList, Bool.or_eq_true, List.contains_iff_mem, decide_eq_true_eq]

theorem isSecret_marked {token : List Char} : IsSecret (marked token) ↔ StaysSecret token := by
  unfold IsSecret StaysSecret
  rw [mem_at_marked, countP_marked]

def redactedToken : List Char := "<redacted-token>".toList

/-- What is shown of a token. -/
def shownToken (token : List Char) : List Char :=
  if StaysSecret token then redactedToken else marked token

theorem redactToken_marked (token : List Char) :
    redactToken (String.ofList (marked token)) = String.ofList (shownToken token) := by
  unfold redactToken shownToken
  by_cases hsecret : StaysSecret token
  · rw [if_pos (isSecretToken_iff.mpr (isSecret_marked.mpr hsecret)), if_pos hsecret]
    rfl
  · rw [if_neg (fun h => hsecret (isSecret_marked.mp (isSecretToken_iff.mp h))), if_neg hsecret]

/-- What is shown of a text: what is shown of its tokens, with a blank between them. -/
theorem redact_eq (value : String) :
    redactBrowserFlowRepairText value =
      " ".intercalate ((((segments value.toList).filter (fun part => !part.isEmpty)).map
        shownToken).map String.ofList) := by
  have hpass : redactDigits [] [] value.toList = marked value.toList := redactDigits_eq [] [] _
  have hfilter : (segments (marked value.toList)).filter (fun part => !part.isEmpty) =
      ((segments value.toList).filter (fun part => !part.isEmpty)).map marked := by
    rw [segments_marked, List.filter_map]
    congr 1
    refine List.filter_congr ?_
    intro part _
    rw [Function.comp_apply, Bool.eq_iff_iff]
    simp [marked_eq_nil]
  rw [redactBrowserFlowRepairText, hpass, splitWhitespace, String.toList_ofList]
  show " ".intercalate (List.map redactToken (List.map String.ofList
    ((segments (marked value.toList)).filter (fun part => !part.isEmpty)))) = _
  rw [hfilter, List.map_map, List.map_map, List.map_map]
  congr 1
  refine List.map_congr_left ?_
  intro token _
  exact redactToken_marked token

theorem not_secret_shownToken (token : List Char) : ¬ IsSecret (shownToken token) := by
  unfold shownToken
  split
  · decide
  · rename_i hsecret
    exact fun h => hsecret (isSecret_marked.mp h)

theorem shownToken_ne_nil {token : List Char} (h : token ≠ []) : shownToken token ≠ [] := by
  unfold shownToken
  split
  · decide
  · exact fun hnil => h (marked_eq_nil.mp hnil)

theorem noLongRun_shownToken (token : List Char) :
    NoLongRun Char.isDigit 7 (shownToken token) := by
  unfold shownToken
  split
  · refine noLongRun_of_forall_not (by decide) ?_
    have hall : redactedToken.all (fun c => !c.isDigit) = true := by decide
    intro c hc
    simpa using List.all_eq_true.mp hall c hc
  · exact noLongRun_marked token

theorem shownToken_not_whitespace {token : List Char} (h : ∀ c ∈ token, isWhitespace c = false) :
    ∀ c ∈ shownToken token, isWhitespace c = false := by
  unfold shownToken
  split
  · have hall : redactedToken.all (fun c => !isWhitespace c) = true := by decide
    intro c hc
    simpa using List.all_eq_true.mp hall c hc
  · -- the marked token is one segment, as the token is
    have hone : segments (marked token) = [marked token] := by
      rw [segments_marked, segments, List.splitOnP_eq_singleton h]
      rfl
    have hmem : marked token ∈ segments (marked token) := by
      rw [hone]
      exact List.mem_singleton_self _
    exact forall_splitOnP (marked token) (marked token) hmem

/-! ## Section 4: Redacted texts -/

/-- Splitting joined parts gives the parts. -/
theorem segments_intercalate {parts : List (List Char)} (hne : parts ≠ [])
    (h : ∀ part ∈ parts, ∀ c ∈ part, isWhitespace c = false) :
    segments ([' '].intercalate parts) = parts := by
  induction parts with
  | nil => exact absurd rfl hne
  | cons part parts ih =>
      have hpart : ∀ c ∈ part, isWhitespace c = false := h part List.mem_cons_self
      cases parts with
      | nil =>
          rw [List.intercalate_singleton]
          exact List.splitOnP_eq_singleton hpart
      | cons next parts =>
          have hrest := ih (by simp) (fun part hmem => h part (List.mem_cons_of_mem _ hmem))
          have hjoin : [' '].intercalate (part :: next :: parts) =
              part ++ ' ' :: [' '].intercalate (next :: parts) := by
            simp [List.intercalate, List.intersperse]
          rw [hjoin, segments, List.splitOnP_append_cons_of_forall_mem hpart ' ' (by decide)]
          exact congrArg (part :: ·) hrest

/-- The tokens of a text, as lists. -/
def tokens (text : List Char) : List (List Char) :=
  (segments text).filter (fun part => !part.isEmpty)

theorem tokens_not_whitespace {text token : List Char} (h : token ∈ tokens text) :
    token ≠ [] ∧ ∀ c ∈ token, isWhitespace c = false := by
  obtain ⟨hmem, hne⟩ := List.mem_filter.mp h
  refine ⟨?_, forall_splitOnP text token hmem⟩
  rintro rfl
  simp at hne

/-- The tokens of a joined list of tokens. -/
theorem tokens_intercalate {parts : List (List Char)}
    (h : ∀ part ∈ parts, part ≠ [] ∧ ∀ c ∈ part, isWhitespace c = false) :
    tokens ([' '].intercalate parts) = parts := by
  cases parts with
  | nil => rfl
  | cons part parts =>
      rw [tokens, segments_intercalate (by simp) (fun part hmem => (h part hmem).2),
        List.filter_eq_self]
      intro part hmem
      have hne := (h part hmem).1
      cases part with
      | nil => exact absurd rfl hne
      | cons c part => rfl

/-- Joining with blanks makes no long runs. -/
theorem noLongRun_intercalate {parts : List (List Char)}
    (h : ∀ part ∈ parts, NoLongRun Char.isDigit 7 part) :
    NoLongRun Char.isDigit 7 ([' '].intercalate parts) := by
  induction parts with
  | nil => exact noLongRun_of_length_lt (by decide)
  | cons part parts ih =>
      have hpart := h part List.mem_cons_self
      cases parts with
      | nil =>
          rw [List.intercalate_singleton]
          exact hpart
      | cons next parts =>
          have hjoin : [' '].intercalate (part :: next :: parts) =
              part ++ ' ' :: [' '].intercalate (next :: parts) := by
            simp [List.intercalate, List.intersperse]
          rw [hjoin]
          exact hpart.append_cons (ih fun part hmem => h part (List.mem_cons_of_mem _ hmem))
            (by decide)

/-- The characters of a redacted text. -/
theorem toList_redact (value : String) :
    (redactBrowserFlowRepairText value).toList =
      [' '].intercalate ((tokens value.toList).map shownToken) := by
  rw [redact_eq, String.toList_intercalate, List.map_map]
  have hid : String.toList ∘ String.ofList = id := by
    funext text
    simp
  rw [hid, List.map_id]
  rfl

theorem tokens_redact (value : String) :
    tokens (redactBrowserFlowRepairText value).toList = (tokens value.toList).map shownToken := by
  rw [toList_redact]
  refine tokens_intercalate ?_
  intro part hpart
  obtain ⟨token, htoken, rfl⟩ := List.mem_map.mp hpart
  obtain ⟨hne, hblank⟩ := tokens_not_whitespace htoken
  exact ⟨shownToken_ne_nil hne, shownToken_not_whitespace hblank⟩

/-- A text without long digit runs and without secret tokens. -/
structure Clean (value : String) : Prop where
  noDigits : ∀ part, part <:+: value.toList → (∀ c ∈ part, c.isDigit = true) → part.length < 7
  noSecrets : ∀ token ∈ splitWhitespace value,
    '@' ∉ token.toList ∧ token.toList.countP Char.isAlphanum < 24

theorem noLongRun_redact (value : String) :
    NoLongRun Char.isDigit 7 (redactBrowserFlowRepairText value).toList := by
  rw [toList_redact]
  refine noLongRun_intercalate ?_
  intro part hpart
  obtain ⟨token, -, rfl⟩ := List.mem_map.mp hpart
  exact noLongRun_shownToken token

/-- **Every redacted text is clean.** -/
theorem clean_redact (value : String) : Clean (redactBrowserFlowRepairText value) := by
  refine ⟨noLongRun_redact value, ?_⟩
  intro token htoken
  obtain ⟨part, hpart, rfl⟩ := List.mem_map.mp htoken
  have hmem : part ∈ tokens (redactBrowserFlowRepairText value).toList := hpart
  rw [tokens_redact] at hmem
  obtain ⟨source, -, rfl⟩ := List.mem_map.mp hmem
  have hnot := not_secret_shownToken source
  unfold IsSecret at hnot
  rw [not_or, Nat.not_le] at hnot
  rw [String.toList_ofList]
  exact hnot

/-- **Redacting again changes nothing.** -/
theorem redact_redact (value : String) :
    redactBrowserFlowRepairText (redactBrowserFlowRepairText value) =
      redactBrowserFlowRepairText value := by
  refine String.toList_injective ?_
  rw [toList_redact, tokens_redact, toList_redact, List.map_map]
  congr 1
  refine List.map_congr_left ?_
  intro token _
  have hsame : marked (shownToken token) = shownToken token :=
    marked_eq_self (noLongRun_shownToken token)
  have hnot : ¬ StaysSecret (shownToken token) := by
    rw [← isSecret_marked, hsame]
    exact not_secret_shownToken token
  rw [Function.comp_apply, shownToken, if_neg hnot, hsame]

/-! ## Section 5: Two inputs -/

/-- The tokens differ only in runs of seven or more digits, or both are to be hidden. -/
def DiffersInSecret (token token' : List Char) : Prop :=
  digitMask token = digitMask token' ∨ (IsSecret token ∧ IsSecret token')

/-- The texts have the same whitespace, and between it they differ only in what is to be hidden. -/
def DifferOnlyInSecrets (a b : String) : Prop :=
  a.toList.filter isWhitespace = b.toList.filter isWhitespace ∧
    List.Forall₂ DiffersInSecret (segments a.toList) (segments b.toList)

/-- Two tokens that differ in more than long digit runs are both hidden behind the first pass. -/
def StayHidden (token token' : List Char) : Prop :=
  digitMask token = digitMask token' ∨ (StaysSecret token ∧ StaysSecret token')

/-- The condition under which two texts that differ only in secrets are shown alike. -/
def SecretsStayHidden (a b : String) : Prop :=
  List.Forall₂ StayHidden (segments a.toList) (segments b.toList)

/-- A secret token that is no secret behind the first pass has a long digit run. -/
theorem hole_of_not_staysSecret {token : List Char} (hsecret : IsSecret token)
    (hnot : ¬ StaysSecret token) : none ∈ digitMask token := by
  by_contra hnone
  have hself : marked token = token := fillHoles_eq_self_of_no_hole hnone
  rw [← isSecret_marked, hself] at hnot
  exact hnot hsecret

theorem mem_redactedDigits_of_hole {token : List Char} (h : none ∈ digitMask token) :
    's' ∈ marked token := by
  obtain ⟨front, back, heq⟩ := List.append_of_mem h
  rw [marked, heq, fillHoles_append, fillHoles_none]
  refine List.mem_append_right _ (List.mem_append_left _ ?_)
  decide

/-- The marker begins with a character that it does not have again. -/
theorem redactedDigits_eq : redactedDigits = '<' :: "redacted-digits>".toList := by decide

/-- **When two tokens are shown alike.** -/
theorem shownToken_eq_iff {token token' : List Char} (h : DiffersInSecret token token') :
    shownToken token = shownToken token' ↔ StayHidden token token' := by
  constructor
  · intro hshown
    rcases h with hmask | ⟨hsecret, hsecret'⟩
    · exact Or.inl hmask
    -- both are to be hidden: either the second pass hides them, or it does not
    unfold shownToken at hshown
    by_cases hstays : StaysSecret token
    · by_cases hstays' : StaysSecret token'
      · exact Or.inr ⟨hstays, hstays'⟩
      · -- the shown text would have to be the marker of a token
        exfalso
        rw [if_pos hstays, if_neg hstays'] at hshown
        have hhole := hole_of_not_staysSecret hsecret' hstays'
        have hmem := mem_redactedDigits_of_hole hhole
        rw [← hshown] at hmem
        exact absurd hmem (by decide)
    · by_cases hstays' : StaysSecret token'
      · exfalso
        rw [if_neg hstays, if_pos hstays'] at hshown
        have hmem := mem_redactedDigits_of_hole (hole_of_not_staysSecret hsecret hstays)
        rw [hshown] at hmem
        exact absurd hmem (by decide)
      · rw [if_neg hstays, if_neg hstays'] at hshown
        left
        -- both have a marker, and there is no room for two
        have hlight : (marked token).countP Char.isAlphanum < 24 := by
          rw [StaysSecret, not_or, Nat.not_le] at hstays
          rw [countP_marked]
          exact hstays.2
        have htwice : 24 < redactedDigits.countP Char.isAlphanum +
            redactedDigits.countP Char.isAlphanum := by decide
        have hroom := hlight.trans htwice
        unfold marked at hshown hroom
        rw [redactedDigits_eq] at hshown hroom
        exact eq_of_fillHoles_eq Char.isAlphanum (by decide)
          (hole_of_not_staysSecret hsecret hstays) (hole_of_not_staysSecret hsecret' hstays')
          hroom hshown
  · rintro (hmask | ⟨hstays, hstays'⟩)
    · have hmarked : marked token = marked token' := congrArg (fillHoles redactedDigits) hmask
      have hstays : StaysSecret token ↔ StaysSecret token' := by
        rw [← isSecret_marked, ← isSecret_marked, hmarked]
      unfold shownToken
      by_cases hstays' : StaysSecret token'
      · rw [if_pos (hstays.mpr hstays'), if_pos hstays']
      · rw [if_neg (fun h => hstays' (hstays.mp h)), if_neg hstays', hmarked]
    · rw [shownToken, shownToken, if_pos hstays, if_pos hstays']

/-- Pairs in a relation under which the tokens are empty together. -/
theorem map_tokens_eq_iff {parts parts' : List (List Char)}
    (h : List.Forall₂ DiffersInSecret parts parts') :
    (parts.filter (fun part => !part.isEmpty)).map shownToken =
        (parts'.filter (fun part => !part.isEmpty)).map shownToken ↔
      List.Forall₂ StayHidden parts parts' := by
  induction h with
  | nil => simp
  | @cons token token' parts parts' hpair hrest ih =>
      rw [List.forall₂_cons, ← ih, ← shownToken_eq_iff hpair]
      have hempty : token = [] ↔ token' = [] := by
        rcases hpair with hmask | ⟨hsecret, hsecret'⟩
        · have hmarked : marked token = marked token' := by rw [marked, marked, hmask]
          rw [← marked_eq_nil, hmarked]
          exact marked_eq_nil
        · -- a secret token is not empty
          refine ⟨?_, ?_⟩
          · rintro rfl
            exact absurd hsecret (by decide)
          · rintro rfl
            exact absurd hsecret' (by decide)
      by_cases hnil : token = []
      · obtain rfl := hempty.mp hnil
        subst hnil
        simp
      · have hnil' : token' ≠ [] := fun h => hnil (hempty.mpr h)
        rw [List.filter_cons_of_pos (by simpa using hnil),
          List.filter_cons_of_pos (by simpa using hnil'), List.map_cons, List.map_cons,
          List.cons.injEq]

/-- **When two texts are shown alike.** -/
theorem redact_eq_iff {a b : String} (h : DifferOnlyInSecrets a b) :
    redactBrowserFlowRepairText a = redactBrowserFlowRepairText b ↔ SecretsStayHidden a b := by
  have htokens : redactBrowserFlowRepairText a = redactBrowserFlowRepairText b ↔
      (tokens a.toList).map shownToken = (tokens b.toList).map shownToken := by
    constructor
    · intro heq
      rw [← tokens_redact, heq, tokens_redact]
    · intro heq
      refine String.toList_injective ?_
      rw [toList_redact, toList_redact, heq]
  exact htokens.trans (map_tokens_eq_iff h.2)

/-! ## Section 6: Values -/

mutual

def JsonValue.mapStrings (f : String → String) : JsonValue → JsonValue
  | .string value => .string (f value)
  | .array values => .array (mapStringsValues f values)
  | .object map => .object (mapStringsEntries f map)
  | .null => .null
  | .bool value => .bool value
  | .number text => .number text

def mapStringsValues (f : String → String) : List JsonValue → List JsonValue
  | [] => []
  | value :: values => value.mapStrings f :: mapStringsValues f values

def mapStringsEntries (f : String → String) :
    List (String × JsonValue) → List (String × JsonValue)
  | [] => []
  | (key, value) :: map => (key, value.mapStrings f) :: mapStringsEntries f map

end

mutual

/-- The strings of a value, its keys apart, in order. -/
def JsonValue.strings : JsonValue → List String
  | .string value => [value]
  | .array values => stringsValues values
  | .object map => stringsEntries map
  | .null => []
  | .bool _ => []
  | .number _ => []

def stringsValues : List JsonValue → List String
  | [] => []
  | value :: values => value.strings ++ stringsValues values

def stringsEntries : List (String × JsonValue) → List String
  | [] => []
  | (_, value) :: map => value.strings ++ stringsEntries map

end

/-- The value without the text of its strings. -/
def JsonValue.shape (value : JsonValue) : JsonValue := value.mapStrings (fun _ => "")

mutual

/-- The redaction of a value redacts its strings. -/
theorem redactValue_eq : ∀ value : JsonValue,
    redactBrowserFlowRepairValue value = value.mapStrings redactBrowserFlowRepairText
  | .string _ => rfl
  | .array values => by
      rw [redactBrowserFlowRepairValue, JsonValue.mapStrings, redactValues_eq values]
  | .object map => by
      rw [redactBrowserFlowRepairValue, JsonValue.mapStrings, redactEntries_eq map]
  | .null => rfl
  | .bool _ => rfl
  | .number _ => rfl

theorem redactValues_eq : ∀ values : List JsonValue,
    redactValues values = mapStringsValues redactBrowserFlowRepairText values
  | [] => rfl
  | value :: values => by
      rw [redactValues, mapStringsValues, redactValue_eq value, redactValues_eq values]

theorem redactEntries_eq : ∀ map : List (String × JsonValue),
    redactEntries map = mapStringsEntries redactBrowserFlowRepairText map
  | [] => rfl
  | (key, value) :: map => by
      rw [redactEntries, mapStringsEntries, redactValue_eq value, redactEntries_eq map]

end

mutual

theorem strings_mapStrings (f : String → String) : ∀ value : JsonValue,
    (value.mapStrings f).strings = value.strings.map f
  | .string _ => rfl
  | .array values => by
      rw [JsonValue.mapStrings, JsonValue.strings, JsonValue.strings, stringsValues_map f values]
  | .object map => by
      rw [JsonValue.mapStrings, JsonValue.strings, JsonValue.strings, stringsEntries_map f map]
  | .null => rfl
  | .bool _ => rfl
  | .number _ => rfl

theorem stringsValues_map (f : String → String) : ∀ values : List JsonValue,
    stringsValues (mapStringsValues f values) = (stringsValues values).map f
  | [] => rfl
  | value :: values => by
      rw [mapStringsValues, stringsValues, stringsValues, List.map_append,
        strings_mapStrings f value, stringsValues_map f values]

theorem stringsEntries_map (f : String → String) : ∀ map : List (String × JsonValue),
    stringsEntries (mapStringsEntries f map) = (stringsEntries map).map f
  | [] => rfl
  | (_, value) :: map => by
      rw [mapStringsEntries, stringsEntries, stringsEntries, List.map_append,
        strings_mapStrings f value, stringsEntries_map f map]

end

mutual

theorem mapStrings_mapStrings (f g : String → String) : ∀ value : JsonValue,
    (value.mapStrings f).mapStrings g = value.mapStrings (g ∘ f)
  | .string _ => rfl
  | .array values => by
      rw [JsonValue.mapStrings, JsonValue.mapStrings, JsonValue.mapStrings,
        mapStringsValues_map f g values]
  | .object map => by
      rw [JsonValue.mapStrings, JsonValue.mapStrings, JsonValue.mapStrings,
        mapStringsEntries_map f g map]
  | .null => rfl
  | .bool _ => rfl
  | .number _ => rfl

theorem mapStringsValues_map (f g : String → String) : ∀ values : List JsonValue,
    mapStringsValues g (mapStringsValues f values) = mapStringsValues (g ∘ f) values
  | [] => rfl
  | value :: values => by
      rw [mapStringsValues, mapStringsValues, mapStringsValues, mapStrings_mapStrings f g value,
        mapStringsValues_map f g values]

theorem mapStringsEntries_map (f g : String → String) : ∀ map : List (String × JsonValue),
    mapStringsEntries g (mapStringsEntries f map) = mapStringsEntries (g ∘ f) map
  | [] => rfl
  | (_, value) :: map => by
      rw [mapStringsEntries, mapStringsEntries, mapStringsEntries, mapStrings_mapStrings f g value,
        mapStringsEntries_map f g map]

end

/-! A value is rebuilt from its shape and its strings. -/

mutual

def JsonValue.refill : JsonValue → List String → JsonValue × List String
  | .string _, strings => (.string (strings.headD ""), strings.tail)
  | .array values, strings =>
    let filled := refillValues values strings
    (.array filled.1, filled.2)
  | .object map, strings =>
    let filled := refillEntries map strings
    (.object filled.1, filled.2)
  | .null, strings => (.null, strings)
  | .bool value, strings => (.bool value, strings)
  | .number text, strings => (.number text, strings)

def refillValues : List JsonValue → List String → List JsonValue × List String
  | [], strings => ([], strings)
  | value :: values, strings =>
    let filled := value.refill strings
    let others := refillValues values filled.2
    (filled.1 :: others.1, others.2)

def refillEntries :
    List (String × JsonValue) → List String → List (String × JsonValue) × List String
  | [], strings => ([], strings)
  | (key, value) :: map, strings =>
    let filled := value.refill strings
    let others := refillEntries map filled.2
    ((key, filled.1) :: others.1, others.2)

end

mutual

theorem refill_shape : ∀ (value : JsonValue) (rest : List String),
    value.shape.refill (value.strings ++ rest) = (value, rest)
  | .string _, _ => rfl
  | .array values, rest => by
      rw [JsonValue.shape, JsonValue.mapStrings, JsonValue.refill, JsonValue.strings,
        refillValues_shape values rest]
  | .object map, rest => by
      rw [JsonValue.shape, JsonValue.mapStrings, JsonValue.refill, JsonValue.strings,
        refillEntries_shape map rest]
  | .null, _ => rfl
  | .bool _, _ => rfl
  | .number _, _ => rfl

theorem refillValues_shape : ∀ (values : List JsonValue) (rest : List String),
    refillValues (mapStringsValues (fun _ => "") values) (stringsValues values ++ rest) =
      (values, rest)
  | [], _ => rfl
  | value :: values, rest => by
      have hvalue := refill_shape value (stringsValues values ++ rest)
      rw [JsonValue.shape] at hvalue
      rw [mapStringsValues, stringsValues, List.append_assoc, refillValues]
      simp only [hvalue, refillValues_shape values rest]

theorem refillEntries_shape : ∀ (map : List (String × JsonValue)) (rest : List String),
    refillEntries (mapStringsEntries (fun _ => "") map) (stringsEntries map ++ rest) =
      (map, rest)
  | [], _ => rfl
  | (_, value) :: map, rest => by
      have hvalue := refill_shape value (stringsEntries map ++ rest)
      rw [JsonValue.shape] at hvalue
      rw [mapStringsEntries, stringsEntries, List.append_assoc, refillEntries]
      simp only [hvalue, refillEntries_shape map rest]

end

theorem eq_of_shape_of_strings {value value' : JsonValue} (hshape : value.shape = value'.shape)
    (hstrings : value.strings = value'.strings) : value = value' := by
  have h := refill_shape value []
  rw [hshape, hstrings, refill_shape value' []] at h
  exact (congrArg Prod.fst h).symm

/-- The values differ only in their strings, and these only in what is to be hidden. -/
def ValuesDifferOnlyInSecrets (value value' : JsonValue) : Prop :=
  value.shape = value'.shape ∧
    List.Forall₂ DifferOnlyInSecrets value.strings value'.strings

/-- What redaction is to do to a text, and to a text that differs from it only in secrets. -/
structure HidesSecrets (a b : String) : Prop where
  clean : Clean (redactBrowserFlowRepairText a)
  again : redactBrowserFlowRepairText (redactBrowserFlowRepairText a) =
    redactBrowserFlowRepairText a
  alike : redactBrowserFlowRepairText a = redactBrowserFlowRepairText b

/-- The same for values. -/
structure HidesSecretsOfValue (value value' : JsonValue) : Prop where
  strings : (redactBrowserFlowRepairValue value).strings =
    value.strings.map redactBrowserFlowRepairText
  clean : ∀ string ∈ (redactBrowserFlowRepairValue value).strings, Clean string
  again : redactBrowserFlowRepairValue (redactBrowserFlowRepairValue value) =
    redactBrowserFlowRepairValue value
  alike : redactBrowserFlowRepairValue value = redactBrowserFlowRepairValue value'

/-- **When two values are shown alike.** -/
theorem redactValue_eq_iff {value value' : JsonValue}
    (h : ValuesDifferOnlyInSecrets value value') :
    redactBrowserFlowRepairValue value = redactBrowserFlowRepairValue value' ↔
      List.Forall₂ SecretsStayHidden value.strings value'.strings := by
  obtain ⟨hshape, hstrings⟩ := h
  have hvalue : redactBrowserFlowRepairValue value = redactBrowserFlowRepairValue value' ↔
      value.strings.map redactBrowserFlowRepairText =
        value'.strings.map redactBrowserFlowRepairText := by
    rw [redactValue_eq, redactValue_eq, ← strings_mapStrings, ← strings_mapStrings]
    constructor
    · intro heq
      rw [heq]
    · intro heq
      refine eq_of_shape_of_strings ?_ heq
      rw [JsonValue.shape, JsonValue.shape, mapStrings_mapStrings, mapStrings_mapStrings]
      exact hshape
  rw [hvalue]
  generalize value.strings = strings at hstrings
  generalize value'.strings = strings' at hstrings
  induction hstrings with
  | nil => simp
  | cons hpair _ ih =>
      rw [List.map_cons, List.map_cons, List.cons.injEq, List.forall₂_cons]
      exact and_congr (redact_eq_iff hpair) ih

/-- **Redaction hides what it is meant to hide, exactly if the first pass leaves enough of it.** -/
theorem redaction_hides_iff (a b : String) (value value' : JsonValue)
    (htexts : DifferOnlyInSecrets a b) (hvalues : ValuesDifferOnlyInSecrets value value') :
    (HidesSecrets a b ↔ SecretsStayHidden a b) ∧
      (HidesSecretsOfValue value value' ↔
        List.Forall₂ SecretsStayHidden value.strings value'.strings) := by
  constructor
  · rw [← redact_eq_iff htexts]
    exact ⟨fun h => h.alike, fun h => ⟨clean_redact a, redact_redact a, h⟩⟩
  · rw [← redactValue_eq_iff hvalues]
    refine ⟨fun h => h.alike, fun h => ?_⟩
    have hstrings : (redactBrowserFlowRepairValue value).strings =
        value.strings.map redactBrowserFlowRepairText := by
      rw [redactValue_eq, strings_mapStrings]
    refine ⟨hstrings, ?_, ?_, h⟩
    · intro string hmem
      rw [hstrings] at hmem
      obtain ⟨source, -, rfl⟩ := List.mem_map.mp hmem
      exact clean_redact source
    · have htwice : redactBrowserFlowRepairText ∘ redactBrowserFlowRepairText =
          redactBrowserFlowRepairText := by
        funext text
        rw [Function.comp_apply, redact_redact]
      have hmap := mapStrings_mapStrings redactBrowserFlowRepairText redactBrowserFlowRepairText value
      rw [htwice] at hmap
      rw [redactValue_eq value, redactValue_eq]
      exact hmap

/-- A phone number and a mail address are hidden. -/
theorem redaction_hides_phone_and_mail :
    HidesSecrets "call 18500001111 or a@b.c" "call 13912345678 or someone@example.com" := by
  have hsegments : segments "call 18500001111 or a@b.c".toList =
      ["call".toList, "18500001111".toList, "or".toList, "a@b.c".toList] := by decide
  have hsegments' : segments "call 13912345678 or someone@example.com".toList =
      ["call".toList, "13912345678".toList, "or".toList, "someone@example.com".toList] := by decide
  have hdiffer : DifferOnlyInSecrets "call 18500001111 or a@b.c"
      "call 13912345678 or someone@example.com" := by
    refine ⟨by decide, ?_⟩
    rw [hsegments, hsegments']
    exact .cons (Or.inl rfl) (.cons (Or.inl (by decide)) (.cons (Or.inl rfl)
      (.cons (Or.inr (by decide)) .nil)))
  refine (redaction_hides_iff _ _ .null .null hdiffer ⟨rfl, .nil⟩).1.mpr ?_
  rw [SecretsStayHidden, hsegments, hsegments']
  exact .cons (Or.inl rfl) (.cons (Or.inl (by decide)) (.cons (Or.inl rfl)
    (.cons (Or.inr (by decide)) .nil)))

/-- **A long number is not hidden like a long word.** -/
theorem long_number_differs_from_long_word :
    DifferOnlyInSecrets "abcdefghijklmnopqrstuvwx" "123456789012345678901234" ∧
      redactBrowserFlowRepairText "abcdefghijklmnopqrstuvwx" ≠
        redactBrowserFlowRepairText "123456789012345678901234" := by
  have hsegments : segments "abcdefghijklmnopqrstuvwx".toList =
      ["abcdefghijklmnopqrstuvwx".toList] := by decide
  have hsegments' : segments "123456789012345678901234".toList =
      ["123456789012345678901234".toList] := by decide
  have hdiffer : DifferOnlyInSecrets "abcdefghijklmnopqrstuvwx" "123456789012345678901234" := by
    refine ⟨by decide, ?_⟩
    rw [hsegments, hsegments']
    exact .cons (Or.inr (by decide)) .nil
  refine ⟨hdiffer, ?_⟩
  rw [ne_eq, redact_eq_iff hdiffer, SecretsStayHidden, hsegments, hsegments', List.forall₂_cons]
  rintro ⟨hmask | ⟨-, hstays⟩, -⟩
  · exact absurd hmask (by decide)
  · exact absurd hstays (by decide)

end Netdisk2Blob.ControlPlane
