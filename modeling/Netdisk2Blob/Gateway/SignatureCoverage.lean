import Netdisk2Blob.Gateway.Authorization

/-!
# What a Signature Covers

Two requests that `authorize_s3` accepts with one credential and one signature have the same
canonical request, if SHA-256 and HMAC have no collisions. The canonical request fixes the
method, the path, the pairs of the query up to their order, the signed headers up to blanks
and the payload hash. `Agree` is what is left for two such requests to ask for the same.

## Contents

- `canonicalRequest_injective`, `canonicalPairs_perm`: what the canonical request fixes
- `Presented`, `authorizeS3_ok`: what an accepted request presents
- `Agree`, `signature_covers_effect_iff`
-/

namespace Netdisk2Blob.Gateway

open Library Text Blob

/-! ## Section 1: Canonical queries -/

section Query

theorem queryPair_pairText {pair : String × String} (h : '=' ∉ pair.1.toList) :
    queryPair (pairText pair) = pair := by
  unfold queryPair pairText
  rw [show pair.1 ++ "=" ++ pair.2 = pair.1 ++ String.singleton '=' ++ pair.2 from rfl,
    splitOnce_append h]
  rfl

/-- The names have neither separator, the values have no `&`. -/
theorem queryPairs_plain {query : String} :
    ∀ pair ∈ queryPairs query,
      '=' ∉ pair.1.toList ∧ '&' ∉ pair.1.toList ∧ '&' ∉ pair.2.toList := by
  intro pair hpair
  obtain ⟨part, hpart, rfl⟩ := List.mem_map.mp hpair
  have hamp : '&' ∉ part.toList := not_mem_of_mem_split (List.mem_filter.mp hpart).1
  unfold queryPair
  cases hsplit : splitOnce '=' part with
  | none =>
    have hnone : '=' ∉ part.toList := by
      intro hmem
      rw [splitOnce, if_pos hmem] at hsplit
      cases hsplit
    exact ⟨hnone, hamp, by simp⟩
  | some pair =>
    obtain ⟨before, after⟩ := pair
    obtain ⟨hbefore, hpart⟩ := splitOnce_eq_some hsplit
    rw [hpart] at hamp
    simp only [String.toList_append, List.mem_append, not_or] at hamp
    exact ⟨hbefore, hamp.1.1, hamp.2⟩

theorem pairText_ne_empty (pair : String × String) : pairText pair ≠ "" := by
  intro h
  have hlist := congrArg String.toList h
  simp [pairText] at hlist

theorem intercalate_pairText_ne_empty {pairs : List (String × String)} (hne : pairs ≠ []) :
    String.intercalate "&" (pairs.map pairText) ≠ "" := by
  cases pairs with
  | nil => exact absurd rfl hne
  | cons pair pairs =>
    rw [List.map_cons]
    cases hrest : pairs.map pairText with
    | nil =>
      rw [String.intercalate_singleton]
      exact pairText_ne_empty pair
    | cons text texts =>
      rw [String.intercalate_cons_of_ne_nil (List.cons_ne_nil _ _)]
      intro h
      have hlist := congrArg String.toList h
      simp [pairText] at hlist

/-- Two lists of pairs with the same text are the same. -/
theorem intercalate_pairText_injective {pairs pairs' : List (String × String)}
    (hplain : ∀ pair ∈ pairs, '=' ∉ pair.1.toList ∧ '&' ∉ (pairText pair).toList)
    (hplain' : ∀ pair ∈ pairs', '=' ∉ pair.1.toList ∧ '&' ∉ (pairText pair).toList)
    (h : String.intercalate "&" (pairs.map pairText) =
      String.intercalate "&" (pairs'.map pairText)) : pairs = pairs' := by
  by_cases hne : pairs = []
  · subst hne
    by_contra hne'
    exact intercalate_pairText_ne_empty (Ne.symm hne') (by rw [← h]; rfl)
  · have hne' : pairs' ≠ [] := by
      rintro rfl
      exact intercalate_pairText_ne_empty hne (by rw [h]; rfl)
    have hback : ∀ pairs : List (String × String), (∀ pair ∈ pairs, '=' ∉ pair.1.toList) →
        (pairs.map pairText).map queryPair = pairs := by
      intro pairs hpairs
      rw [List.map_map]
      exact (List.map_congr_left (fun pair hpair => queryPair_pairText (hpairs pair hpair))).trans
        (List.map_id pairs)
    have htexts : pairs.map pairText = pairs'.map pairText := by
      apply @intercalate_injective '&'
      · simpa using hne
      · simpa using hne'
      · intro text htext
        obtain ⟨pair, hpair, rfl⟩ := List.mem_map.mp htext
        exact (hplain pair hpair).2
      · intro text htext
        obtain ⟨pair, hpair, rfl⟩ := List.mem_map.mp htext
        exact (hplain' pair hpair).2
      · exact h
    rw [← hback pairs (fun pair hpair => (hplain pair hpair).1), htexts,
      hback pairs' (fun pair hpair => (hplain' pair hpair).1)]

/-- Two queries with the same canonical form have the same pairs, in some order. -/
theorem canonicalPairs_perm {query query' : Option String} {excludedKey excludedKey' : String}
    (h : canonicalQueryStringExcluding query excludedKey =
      canonicalQueryStringExcluding query' excludedKey') :
    (canonicalPairs query excludedKey).Perm (canonicalPairs query' excludedKey') := by
  have hplain : ∀ (query : Option String) (excludedKey : String),
      ∀ pair ∈ (canonicalPairs query excludedKey).insertionSort PairLE,
        '=' ∉ pair.1.toList ∧ '&' ∉ (pairText pair).toList := by
    intro query excludedKey pair hpair
    rw [(List.perm_insertionSort PairLE _).mem_iff] at hpair
    obtain ⟨hname, hamp, hvalue⟩ := queryPairs_plain pair (List.mem_filter.mp hpair).1
    refine ⟨hname, ?_⟩
    simp [pairText, hamp, hvalue]
  have hsorted := intercalate_pairText_injective (hplain query excludedKey)
    (hplain query' excludedKey') h
  have hback := List.perm_insertionSort PairLE (canonicalPairs query' excludedKey')
  rw [← hsorted] at hback
  exact (List.perm_insertionSort PairLE _).symm.trans hback

end Query

/-! ## Section 2: Canonical requests -/

section Canonical

/-- The lines of a canonical request. -/
def canonicalLines (request : S3Request) (canonicalQuery : String)
    (headerLines signedHeaders : List String) (payloadHash : String) : List String :=
  [request.method.val, canonicalUri request.path.val, canonicalQuery] ++ headerLines ++
    ["", String.intercalate ";" signedHeaders, payloadHash]

theorem intercalate_append_lines (lines rest : List String) (hrest : rest ≠ []) :
    String.intercalate "\n" (lines ++ rest) =
      withHeaderLines lines (String.intercalate "\n" rest) := by
  induction lines with
  | nil => rfl
  | cons line lines ih =>
    rw [List.cons_append, String.intercalate_cons_of_ne_nil (by simp [hrest]), ih]
    rfl

theorem canonicalRequest_eq (request : S3Request) (canonicalQuery : String)
    (headerLines signedHeaders : List String) (payloadHash : String) :
    canonicalRequest request canonicalQuery headerLines signedHeaders payloadHash =
      String.intercalate "\n"
        (canonicalLines request canonicalQuery headerLines signedHeaders payloadHash) := by
  unfold canonicalLines
  rw [List.append_assoc, intercalate_append_lines _ _ (by simp),
    intercalate_append_lines _ _ (by simp)]
  simp [canonicalRequest, withHeaderLines, String.append_assoc]

variable {request request' : S3Request} {canonicalQuery canonicalQuery' : String}
  {headerLines headerLines' signedHeaders signedHeaders' : List String}
  {payloadHash payloadHash' : String}

/-- **A canonical request fixes what it is made of.** -/
theorem canonicalRequest_injective
    (hlines : ∀ line ∈ canonicalLines request canonicalQuery headerLines signedHeaders payloadHash,
      '\n' ∉ line.toList)
    (hlines' : ∀ line ∈ canonicalLines request' canonicalQuery' headerLines' signedHeaders'
      payloadHash', '\n' ∉ line.toList)
    (h : canonicalRequest request canonicalQuery headerLines signedHeaders payloadHash =
      canonicalRequest request' canonicalQuery' headerLines' signedHeaders' payloadHash') :
    request.method.val = request'.method.val ∧
      canonicalUri request.path.val = canonicalUri request'.path.val ∧
      canonicalQuery = canonicalQuery' ∧ headerLines = headerLines' ∧
      String.intercalate ";" signedHeaders = String.intercalate ";" signedHeaders' ∧
      payloadHash = payloadHash' := by
  rw [canonicalRequest_eq, canonicalRequest_eq] at h
  have hsame := @intercalate_injective '\n' _ _ (by simp [canonicalLines])
    (by simp [canonicalLines]) hlines hlines' h
  simp only [canonicalLines, List.cons_append, List.nil_append, List.cons.injEq] at hsame
  obtain ⟨hmethod, huri, hquery, hrest⟩ := hsame
  -- the last three lines are the same number of lines on both sides
  obtain ⟨hheaders, htail⟩ := List.append_inj' hrest rfl
  simp only [List.cons.injEq, true_and, and_true] at htail
  exact ⟨hmethod, huri, hquery, hheaders, htail.1, htail.2⟩

end Canonical

/-! ## Section 3: What an accepted request presents -/

/-- A signature with what it is made of. -/
structure Presented where
  scope : CredentialScope
  signature : String
  signedHeaders : List String
  amzDate : String
  payloadHash : String
  /-- the parameter that the canonical query leaves out -/
  excludedKey : String
  deriving DecidableEq, Repr

def presented (config : DataPlaneConfig) (request : S3Request) : Except S3Error Presented := do
  let hasPresigned ← hasPresignedQueryAuth (request.query.map Subtype.val)
  if hasPresigned then
    let parsed ← parsePresignedAuthorization config.router (request.query.map Subtype.val)
    return ⟨parsed.scope, parsed.signature, parsed.signedHeaders, parsed.amzDate,
      "UNSIGNED-PAYLOAD", "X-Amz-Signature"⟩
  else
    let authorization ← requiredHeader request "Authorization"
    let parsed ← parseAuthorizationHeader authorization
    let amzDate ← requiredHeader request "x-amz-date"
    let payloadHash ← requiredHeader request "x-amz-content-sha256"
    return ⟨parsed.scope, parsed.signature, parsed.signedHeaders, amzDate, payloadHash, ""⟩

section Accepted

variable {config : DataPlaneConfig} {nowSecs : Nat} {request : S3Request} {application : String}

/-- A text that is one line of a canonical request or of a string to sign. -/
def OneLine (text : String) : Prop := '\n' ∉ text.toList

instance (text : String) : Decidable (OneLine text) :=
  inferInstanceAs (Decidable ('\n' ∉ text.toList))

/-- A request and its signature, both with or both without a presigned query. -/
def ModeOf (request : S3Request) (excludedKey : String) : Prop :=
  let isPresigned := ∃ pair ∈ queryPairs ((request.query.map Subtype.val).getD ""),
    pair.1 = "X-Amz-Algorithm"
  excludedKey = "" ∧ ¬ isPresigned ∨ excludedKey = "X-Amz-Signature" ∧ isPresigned

/-- What `authorize_s3` has checked of a request that it accepts. -/
structure Accepted (config : DataPlaneConfig) (request : S3Request) (application : String)
    (signed : Presented) (headerLines : List String) : Prop where
  presented : presented config request = .ok signed
  mode : ModeOf request signed.excludedKey
  date : OneLine signed.amzDate
  hash : OneLine signed.payloadHash
  names : signed.signedHeaders ≠ [] ∧
    ∀ name ∈ signed.signedHeaders, OneLine name ∧ ';' ∉ name.toList
  headers : canonicalHeaders request signed.signedHeaders = .ok headerLines
  signature : ∃ secret, config.resolveS3Application signed.scope.accessKey =
      some (application, secret) ∧
    signV4 config secret signed.scope (stringToSign config signed.amzDate signed.scope
      (canonicalRequest request
        (canonicalQueryStringExcluding (request.query.map Subtype.val) signed.excludedKey)
        headerLines signed.signedHeaders signed.payloadHash)) = signed.signature
  payload : signed.payloadHash ≠ "UNSIGNED-PAYLOAD" →
    config.sha256Hex (request.body.getD []) = signed.payloadHash

theorem oneLine_headerText (value : HeaderText) : OneLine value.val := by
  intro hmem
  have hc := value.property '\n' hmem
  simp at hc

theorem oneLine_uriText (text : UriText) : OneLine text.val := by
  intro hmem
  have hc := text.property '\n' hmem
  simp at hc

theorem oneLine_requiredHeader {name value : String}
    (h : requiredHeader request name = .ok value) : OneLine value := by
  unfold requiredHeader at h
  split at h
  · cases h
  · cases h
  · cases h
    exact oneLine_headerText _

theorem entryOf_chars {parameters name missing value : String} {entries : List (String × String)}
    (hentries : authorizationEntries parameters = .ok entries)
    (h : entryOf entries name missing = .ok value) : ∀ c ∈ value.toList, c ∈ parameters.toList := by
  unfold entryOf at h
  split at h
  · cases h
  · rename_i entry hfind
    cases h
    intro c hc
    have hmem : entry ∈ entries := List.mem_reverse.mp (List.mem_of_find?_eq_some hfind)
    obtain ⟨item, hitem, hentry⟩ := exists_of_mem_forall₂ (mapM_ok hentries) entry hmem
    split at hentry
    · cases hentry
    · rename_i found hsplit
      cases hentry
      exact mem_of_mem_split hitem (mem_of_mem_trim (mem_of_splitOnce hsplit (Or.inr hc)))

theorem parseAuthorizationHeader_names {value : String} {parsed : ParsedAuthorization}
    (hline : OneLine value) (h : parseAuthorizationHeader value = .ok parsed) :
    parsed.signedHeaders ≠ [] ∧
      ∀ name ∈ parsed.signedHeaders, OneLine name ∧ ';' ∉ name.toList := by
  unfold parseAuthorizationHeader at h
  split at h
  · cases h
  · rename_i parameters hstrip
    obtain ⟨entries, hentries, h1⟩ := except_bind_ok.mp h
    obtain ⟨credential, -, h2⟩ := except_bind_ok.mp h1
    obtain ⟨signedHeaders, hsigned, h3⟩ := except_bind_ok.mp h2
    obtain ⟨signature, -, h4⟩ := except_bind_ok.mp h3
    obtain ⟨scope, -, h5⟩ := except_bind_ok.mp h4
    cases h5
    refine ⟨split_ne_nil, fun name hname => ⟨?_, not_mem_of_mem_split hname⟩⟩
    intro hc
    have hvalue := entryOf_chars hentries hsigned _ (mem_of_mem_split hname hc)
    exact hline (mem_of_stripPrefix hstrip hvalue)

/-- The parameters of a query are parts of it. -/
theorem oneLine_queryPairs (text : UriText) :
    ∀ pair ∈ queryPairs text.val, OneLine pair.1 ∧ OneLine pair.2 := by
  intro pair hpair
  obtain ⟨part, hpart, rfl⟩ := List.mem_map.mp hpair
  have hline : OneLine part := fun hc =>
    oneLine_uriText text (mem_of_mem_split (List.mem_filter.mp hpart).1 hc)
  unfold queryPair
  cases hsplit : splitOnce '=' part with
  | none => exact ⟨hline, fun hc => absurd hc List.not_mem_nil⟩
  | some pair =>
    exact ⟨fun hc => hline (mem_of_splitOnce hsplit (Or.inl hc)),
      fun hc => hline (mem_of_splitOnce hsplit (Or.inr hc))⟩

theorem parsePresignedAuthorization_ok {router : S3Router} {query : Option UriText}
    {parsed : ParsedPresignedAuthorization}
    (h : parsePresignedAuthorization router (query.map Subtype.val) = .ok parsed) :
    OneLine parsed.amzDate ∧ parsed.signedHeaders ≠ [] := by
  cases query with
  | none => cases h
  | some query =>
    unfold parsePresignedAuthorization at h
    obtain ⟨_, -, h1⟩ := except_bind_ok.mp h
    obtain ⟨algorithm, -, h2⟩ := except_bind_ok.mp h1
    obtain ⟨_, -, h3⟩ := except_bind_ok.mp h2
    obtain ⟨credentialRaw, -, h4⟩ := except_bind_ok.mp h3
    obtain ⟨credential, -, h5⟩ := except_bind_ok.mp h4
    obtain ⟨scope, -, h6⟩ := except_bind_ok.mp h5
    obtain ⟨amzDate, hdate, h7⟩ := except_bind_ok.mp h6
    obtain ⟨expiresRaw, -, h8⟩ := except_bind_ok.mp h7
    obtain ⟨expires, -, h9⟩ := except_bind_ok.mp h8
    obtain ⟨_, -, h10⟩ := except_bind_ok.mp h9
    obtain ⟨signedHeadersRaw, -, h11⟩ := except_bind_ok.mp h10
    obtain ⟨signedHeadersDecoded, -, h12⟩ := except_bind_ok.mp h11
    obtain ⟨_, hnonempty, h13⟩ := except_bind_ok.mp h12
    obtain ⟨signature, -, h14⟩ := except_bind_ok.mp h13
    cases h14
    refine ⟨?_, require_ok.mp hnonempty⟩
    unfold requiredQueryParam at hdate
    split at hdate
    · cases hdate
    · rename_i pair hfind
      cases hdate
      exact (oneLine_queryPairs query pair (List.mem_of_find?_eq_some hfind)).2

/-- The headers that a presigned URL may sign. -/
theorem validatePresignedSignedHeaders_ok {signedHeaders : List String}
    (h : validatePresignedSignedHeaders signedHeaders = .ok ()) :
    "host" ∈ signedHeaders ∧
      ∀ name ∈ signedHeaders, name ∈ ["host", "content-type", "content-length"] := by
  unfold validatePresignedSignedHeaders at h
  split at h
  · cases h
  · rename_i hnone
    split at h
    · rename_i hhost
      refine ⟨hhost, fun name hname => ?_⟩
      have hallowed := List.find?_eq_none.mp hnone name hname
      by_contra hother
      exact hallowed (decide_eq_true hother)
    · cases h

theorem hasPresignedQueryAuth_mode {isPresigned : Bool}
    (h : hasPresignedQueryAuth (request.query.map Subtype.val) = .ok isPresigned) :
    ModeOf request (if isPresigned then "X-Amz-Signature" else "") := by
  unfold hasPresignedQueryAuth at h
  dsimp only at h
  split at h
  · cases h
  · rename_i hcomplete
    cases h
    cases halgorithm : (queryPairs ((request.query.map Subtype.val).getD "")).any
        (fun pair => decide (pair.1 = "X-Amz-Algorithm")) with
    | false =>
      refine Or.inl ⟨by simp, ?_⟩
      rintro ⟨pair, hpair, hname⟩
      exact (List.any_eq_false.mp halgorithm pair hpair) (decide_eq_true hname)
    | true =>
      rw [halgorithm] at hcomplete
      refine Or.inr ⟨by simpa using hcomplete, ?_⟩
      obtain ⟨pair, hpair, hname⟩ := List.any_eq_true.mp halgorithm
      exact ⟨pair, hpair, of_decide_eq_true hname⟩

theorem verifyS3Signature_ok {canonicalQuery payloadHash amzDate secret signature : String}
    {signedHeaders : List String} {scope : CredentialScope}
    (h : verifyS3Signature config request canonicalQuery signedHeaders payloadHash amzDate scope
      secret signature = .ok ()) :
    ∃ headerLines, canonicalHeaders request signedHeaders = .ok headerLines ∧
      signV4 config secret scope (stringToSign config amzDate scope
        (canonicalRequest request canonicalQuery headerLines signedHeaders payloadHash)) =
          signature := by
  unfold verifyS3Signature at h
  obtain ⟨headerLines, hlines, hrest⟩ := except_bind_ok.mp h
  exact ⟨headerLines, hlines, require_ok.mp hrest⟩

theorem resolvedApplication_ok {accessKey : String} {resolved : String × String}
    (h : config.resolvedApplication accessKey = .ok resolved) :
    config.resolveS3Application accessKey = some resolved := by
  unfold DataPlaneConfig.resolvedApplication at h
  split at h
  · cases h
  · rename_i found hfound
    cases h
    exact hfound

theorem authorizeS3PresignedQuery_ok
    (hpresigned : hasPresignedQueryAuth (request.query.map Subtype.val) = .ok true)
    (h : authorizeS3PresignedQuery config nowSecs request = .ok application) :
    ∃ signed headerLines, Accepted config request application signed headerLines := by
  unfold authorizeS3PresignedQuery at h
  obtain ⟨parsed, hparsed, h1⟩ := except_bind_ok.mp h
  obtain ⟨⟨found, secret⟩, hresolved, h2⟩ := except_bind_ok.mp h1
  obtain ⟨_, hscope, h3⟩ := except_bind_ok.mp h2
  obtain ⟨_, htime, h4⟩ := except_bind_ok.mp h3
  obtain ⟨_, hallowed, h5⟩ := except_bind_ok.mp h4
  obtain ⟨_, hverify, hdone⟩ := except_bind_ok.mp h5
  cases hdone
  obtain ⟨headerLines, hlines, hsignature⟩ := verifyS3Signature_ok hverify
  obtain ⟨hdate, hnonempty⟩ := parsePresignedAuthorization_ok hparsed
  obtain ⟨-, hnames⟩ := validatePresignedSignedHeaders_ok hallowed
  refine ⟨⟨parsed.scope, parsed.signature, parsed.signedHeaders, parsed.amzDate,
    "UNSIGNED-PAYLOAD", "X-Amz-Signature"⟩, headerLines, ?_,
    hasPresignedQueryAuth_mode hpresigned, hdate, by simp [OneLine],
    ⟨hnonempty, fun name hname => ?_⟩, hlines,
    ⟨secret, resolvedApplication_ok hresolved, hsignature⟩, fun hne => absurd rfl hne⟩
  · apply except_bind_ok.mpr
    refine ⟨true, hpresigned, ?_⟩
    rw [if_pos rfl]
    exact except_bind_ok.mpr ⟨parsed, hparsed, rfl⟩
  · have hallowed := hnames name hname
    simp only [List.mem_cons, List.not_mem_nil, or_false] at hallowed
    rcases hallowed with rfl | rfl | rfl <;> decide

theorem authorizeS3HeaderAuth_ok
    (hpresigned : hasPresignedQueryAuth (request.query.map Subtype.val) = .ok false)
    (h : authorizeS3HeaderAuth config nowSecs request
      (config.sha256Hex (request.body.getD [])) = .ok application) :
    ∃ signed headerLines, Accepted config request application signed headerLines := by
  unfold authorizeS3HeaderAuth at h
  obtain ⟨authorization, hauthorization, h1⟩ := except_bind_ok.mp h
  obtain ⟨parsed, hparsed, h2⟩ := except_bind_ok.mp h1
  obtain ⟨⟨found, secret⟩, hresolved, h3⟩ := except_bind_ok.mp h2
  obtain ⟨_, hscope, h4⟩ := except_bind_ok.mp h3
  obtain ⟨amzDate, hdate, h5⟩ := except_bind_ok.mp h4
  obtain ⟨_, htime, h6⟩ := except_bind_ok.mp h5
  obtain ⟨payloadHash, hpayload, h7⟩ := except_bind_ok.mp h6
  obtain ⟨_, hmatches, h8⟩ := except_bind_ok.mp h7
  obtain ⟨_, hverify, hdone⟩ := except_bind_ok.mp h8
  cases hdone
  obtain ⟨headerLines, hlines, hsignature⟩ := verifyS3Signature_ok hverify
  refine ⟨⟨parsed.scope, parsed.signature, parsed.signedHeaders, amzDate, payloadHash, ""⟩,
    headerLines, ?_, hasPresignedQueryAuth_mode hpresigned, oneLine_requiredHeader hdate,
    oneLine_requiredHeader hpayload,
    parseAuthorizationHeader_names (oneLine_requiredHeader hauthorization) hparsed, hlines,
    ⟨secret, resolvedApplication_ok hresolved, hsignature⟩, ?_⟩
  · apply except_bind_ok.mpr
    refine ⟨false, hpresigned, ?_⟩
    rw [if_neg (by simp)]
    exact except_bind_ok.mpr ⟨authorization, hauthorization, except_bind_ok.mpr ⟨parsed, hparsed,
      except_bind_ok.mpr ⟨amzDate, hdate, except_bind_ok.mpr ⟨payloadHash, hpayload, rfl⟩⟩⟩⟩
  · intro hne
    exact (require_ok.mp hmatches).resolve_left hne

/-- **What an accepted request presents.** -/
theorem authorizeS3_ok (h : authorizeS3 config nowSecs request = .ok application) :
    ∃ signed headerLines, Accepted config request application signed headerLines := by
  unfold authorizeS3 at h
  obtain ⟨hasPresigned, hpresigned, h1⟩ := except_bind_ok.mp h
  obtain ⟨_, -, h2⟩ := except_bind_ok.mp h1
  cases hasPresigned with
  | true => exact authorizeS3PresignedQuery_ok hpresigned h2
  | false =>
    rw [if_neg (by simp)] at h2
    split at h2
    · cases h2
    · exact authorizeS3HeaderAuth_ok hpresigned h2

end Accepted

/-! ## Section 4: One signature, one canonical request -/

section SameSignature

theorem oneLine_append {text text' : String} (h : OneLine text) (h' : OneLine text') :
    OneLine (text ++ text') := by
  intro hmem
  rw [String.toList_append, List.mem_append] at hmem
  exact hmem.elim h h'

theorem oneLine_intercalate {separator : String} {texts : List String}
    (hseparator : OneLine separator) (h : ∀ text ∈ texts, OneLine text) :
    OneLine (String.intercalate separator texts) := by
  induction texts with
  | nil => exact List.not_mem_nil
  | cons text texts ih =>
    have htext := h text List.mem_cons_self
    have htexts := ih (fun text hmem => h text (List.mem_cons_of_mem _ hmem))
    by_cases hnil : texts = []
    · subst hnil
      rw [String.intercalate_singleton]
      exact htext
    · rw [String.intercalate_cons_of_ne_nil hnil]
      exact oneLine_append (oneLine_append htext hseparator) htexts

theorem oneLine_normalizeHeaderValue (value : String) : OneLine (normalizeHeaderValue value) := by
  apply oneLine_intercalate (by decide)
  intro part hpart hmem
  have hblank := not_isWhitespace_of_mem_splitWhitespace hpart hmem
  exact absurd hblank (by decide)

theorem oneLine_canonicalQuery (query : Option UriText) (excludedKey : String) :
    OneLine (canonicalQueryStringExcluding (query.map Subtype.val) excludedKey) := by
  apply oneLine_intercalate (by decide)
  intro text htext
  obtain ⟨pair, hpair, rfl⟩ := List.mem_map.mp htext
  rw [(List.perm_insertionSort PairLE _).mem_iff] at hpair
  have hpairs := (List.mem_filter.mp hpair).1
  cases query with
  | none => exact absurd hpairs List.not_mem_nil
  | some text =>
    obtain ⟨hname, hvalue⟩ := oneLine_queryPairs text pair hpairs
    exact oneLine_append (oneLine_append hname (by decide)) hvalue

variable {config : DataPlaneConfig} {request request' : S3Request}
  {application application' : String} {signed signed' : Presented}
  {headerLines headerLines' : List String}

theorem canonicalHeader_ok {name line : String} (h : canonicalHeader request name = .ok line) :
    ∃ value : HeaderText, request.header name = some (some value) ∧
      line = name ++ ":" ++ normalizeHeaderValue value.val := by
  unfold canonicalHeader at h
  split at h
  · cases h
  · cases h
  · rename_i value hvalue
    cases h
    exact ⟨value, hvalue, rfl⟩

theorem Accepted.oneLine (h : Accepted config request application signed headerLines) :
    ∀ line ∈ canonicalLines request
        (canonicalQueryStringExcluding (request.query.map Subtype.val) signed.excludedKey)
        headerLines signed.signedHeaders signed.payloadHash, OneLine line := by
  intro line hline
  have huri : OneLine (canonicalUri request.path.val) := by
    unfold canonicalUri
    split
    · decide
    · exact oneLine_uriText request.path
  simp only [canonicalLines, List.cons_append, List.nil_append, List.mem_cons, List.mem_append,
    List.not_mem_nil, or_false] at hline
  rcases hline with rfl | rfl | rfl | hheader | rfl | rfl | rfl
  · exact oneLine_uriText request.method
  · exact huri
  · exact oneLine_canonicalQuery request.query signed.excludedKey
  · obtain ⟨name, hname, hvalue⟩ := exists_of_mem_forall₂ (mapM_ok h.headers) line hheader
    obtain ⟨value, -, rfl⟩ := canonicalHeader_ok hvalue
    exact oneLine_append (oneLine_append (h.names.2 name hname).1 (by decide))
      (oneLine_normalizeHeaderValue value.val)
  · decide
  · exact oneLine_intercalate (by decide) (fun name hname => (h.names.2 name hname).1)
  · exact h.hash

theorem signV4_injective (hhmac : ∀ key, Function.Injective (config.hmacSha256 key))
    {secret : String} {scope : CredentialScope} {text text' : String}
    (h : signV4 config secret scope text = signV4 config secret scope text') : text = text' :=
  asBytes_injective (hhmac _ (hexEncode_injective h))

theorem stringToSign_injective {scope : CredentialScope} {amzDate amzDate' text text' : String}
    (hdate : OneLine amzDate) (hdate' : OneLine amzDate')
    (h : stringToSign config amzDate scope text = stringToSign config amzDate' scope text') :
    amzDate = amzDate' ∧
      config.sha256Hex (asBytes text) = config.sha256Hex (asBytes text') := by
  have hparts : ∀ amzDate text, stringToSign config amzDate scope text =
      "AWS4-HMAC-SHA256\n" ++ (amzDate ++ "\n" ++
        (scope.date ++ "/" ++ scope.region ++ "/" ++ scope.service ++ "/aws4_request\n" ++
          config.sha256Hex (asBytes text))) := by
    intro amzDate text
    unfold stringToSign
    simp only [String.append_assoc]
  rw [hparts, hparts] at h
  obtain ⟨hsame, htail⟩ := append_separator_injective rfl hdate hdate'
    ((String.append_right_inj _).mp h)
  exact ⟨hsame, (String.append_right_inj _).mp htail⟩

/-- What the canonical request of two requests has in common. -/
structure SameCanonical (request request' : S3Request) (signed : Presented)
    (headerLines : List String) : Prop where
  method : request.method.val = request'.method.val
  uri : canonicalUri request.path.val = canonicalUri request'.path.val
  pairs : (canonicalPairs (request.query.map Subtype.val) signed.excludedKey).Perm
    (canonicalPairs (request'.query.map Subtype.val) signed.excludedKey)
  headers : canonicalHeaders request signed.signedHeaders = .ok headerLines
  headers' : canonicalHeaders request' signed.signedHeaders = .ok headerLines

/-- The canonical query of a presigned request has an algorithm, the other has none. -/
theorem excludedKey_eq
    (h : ModeOf request signed.excludedKey) (h' : ModeOf request' signed'.excludedKey)
    (hpairs : (canonicalPairs (request.query.map Subtype.val) signed.excludedKey).Perm
      (canonicalPairs (request'.query.map Subtype.val) signed'.excludedKey)) :
    signed.excludedKey = signed'.excludedKey := by
  have hkeep : ∀ {request : S3Request} {excludedKey : String}, ModeOf request excludedKey →
      ((∃ pair ∈ queryPairs ((request.query.map Subtype.val).getD ""),
        pair.1 = "X-Amz-Algorithm") ↔
      ∃ pair ∈ canonicalPairs (request.query.map Subtype.val) excludedKey,
        pair.1 = "X-Amz-Algorithm") := by
    intro request excludedKey hmode
    have hother : excludedKey ≠ "X-Amz-Algorithm" := by
      rcases hmode with ⟨rfl, -⟩ | ⟨rfl, -⟩ <;> decide
    constructor
    · rintro ⟨pair, hpair, hname⟩
      refine ⟨pair, List.mem_filter.mpr ⟨hpair, decide_eq_true ?_⟩, hname⟩
      exact fun heq => hother (heq.symm.trans hname)
    · rintro ⟨pair, hpair, hname⟩
      exact ⟨pair, (List.mem_filter.mp hpair).1, hname⟩
  have hsame : (∃ pair ∈ canonicalPairs (request.query.map Subtype.val) signed.excludedKey,
      pair.1 = "X-Amz-Algorithm") ↔
      ∃ pair ∈ canonicalPairs (request'.query.map Subtype.val) signed'.excludedKey,
        pair.1 = "X-Amz-Algorithm" := by
    simp only [hpairs.mem_iff]
  have hboth := (hkeep h).trans (hsame.trans (hkeep h').symm)
  rcases h with ⟨hkey, hnone⟩ | ⟨hkey, hsome⟩
  · rcases h' with ⟨hkey', -⟩ | ⟨-, hsome'⟩
    · rw [hkey, hkey']
    · exact absurd (hboth.mpr hsome') hnone
  · rcases h' with ⟨-, hnone'⟩ | ⟨hkey', -⟩
    · exact absurd (hboth.mp hsome) hnone'
    · rw [hkey, hkey']

/-- **Two accepted requests with one credential and one signature present the same.** -/
theorem presented_eq (hsha : Function.Injective config.sha256Hex)
    (hhmac : ∀ key, Function.Injective (config.hmacSha256 key))
    (h : Accepted config request application signed headerLines)
    (h' : Accepted config request' application' signed' headerLines')
    (hscope : signed.scope = signed'.scope) (hsignature : signed.signature = signed'.signature) :
    signed = signed' ∧ SameCanonical request request' signed headerLines := by
  obtain ⟨secret, hsecret, hsigned⟩ := h.signature
  obtain ⟨secret', hsecret', hsigned'⟩ := h'.signature
  rw [← hscope, hsecret] at hsecret'
  obtain ⟨-, rfl⟩ := Prod.mk.inj (Option.some.inj hsecret')
  rw [← hscope] at hsigned'
  have htext := signV4_injective hhmac (hsigned.trans (hsignature.trans hsigned'.symm))
  obtain ⟨hdate, hhash⟩ := stringToSign_injective h.date h'.date htext
  obtain ⟨hmethod, huri, hquery, hlines, hnames, hpayload⟩ :=
    canonicalRequest_injective h.oneLine h'.oneLine (asBytes_injective (hsha hhash))
  have hpairs := canonicalPairs_perm hquery
  have hkey := excludedKey_eq h.mode h'.mode hpairs
  have hsignedHeaders : signed.signedHeaders = signed'.signedHeaders :=
    @intercalate_injective ';' _ _ h.names.1 h'.names.1 (fun name hname => (h.names.2 name hname).2)
      (fun name hname => (h'.names.2 name hname).2) hnames
  have heq : signed = signed' := by
    cases signed
    cases signed'
    simp only [Presented.mk.injEq]
    exact ⟨hscope, hsignature, hsignedHeaders, hdate, hpayload, hkey⟩
  subst heq hlines
  exact ⟨rfl, hmethod, huri, hpairs, h.headers, h'.headers⟩

end SameSignature

/-! ## Section 5: Selectors -/

section Selectors

/-- The parameters of a request. -/
def requestPairs (request : S3Request) : List (String × String) :=
  queryPairs ((request.query.map Subtype.val).getD "")

variable {β : Type}

def readNamed (name : String) (read : String → Option β) (pair : String × String) : Option β :=
  if pair.1 = name then read pair.2 else none

/-- The last value that is read for a name. -/
def lastValue (name : String) (read : String → Option β) (request : S3Request) : Option β :=
  (requestPairs request).reverse.findSome? (readNamed name read)

/-- No name is given two values. -/
def Unrepeated (name : String) (request : S3Request) : Prop :=
  ∀ pair ∈ requestPairs request, ∀ pair' ∈ requestPairs request,
    pair.1 = name → pair'.1 = name → pair.2 = pair'.2

/-- The order of the parameters does not matter, or it does not matter this time. -/
def SameSelector (name : String) (read : String → Option β) (request request' : S3Request) :
    Prop :=
  Unrepeated name request ∨ lastValue name read request = lastValue name read request'

theorem findSome?_perm {α : Type} {f : α → Option β} {l l' : List α} (h : l.Perm l')
    (hsame : ∀ a ∈ l, ∀ b ∈ l, ∀ x y, f a = some x → f b = some y → x = y) :
    l.findSome? f = l'.findSome? f := by
  cases hl : l.findSome? f with
  | none =>
    symm
    rw [List.findSome?_eq_none_iff] at hl ⊢
    exact fun a ha => hl a (h.mem_iff.mpr ha)
  | some x =>
    obtain ⟨a, ha, hx⟩ := List.exists_of_findSome?_eq_some hl
    cases hl' : l'.findSome? f with
    | none =>
      rw [List.findSome?_eq_none_iff] at hl'
      rw [hl' a (h.mem_iff.mp ha)] at hx
      cases hx
    | some y =>
      obtain ⟨b, hb, hy⟩ := List.exists_of_findSome?_eq_some hl'
      rw [hsame a ha b (h.mem_iff.mpr hb) x y hx hy]

theorem findSome?_filter {α : Type} {f : α → Option β} {p : α → Bool} {l : List α}
    (h : ∀ a, p a = false → f a = none) : (l.filter p).findSome? f = l.findSome? f := by
  induction l with
  | nil => rfl
  | cons a l ih =>
    cases hp : p a with
    | true => rw [List.filter_cons_of_pos hp, List.findSome?_cons, List.findSome?_cons, ih]
    | false =>
      rw [List.filter_cons_of_neg (by simp [hp]), List.findSome?_cons, h a hp]
      exact ih

variable {request request' : S3Request} {excludedKey name : String} {read : String → Option β}

/-- The parameter that the canonical query leaves out selects nothing. -/
theorem lastValue_canonical (hname : name ≠ excludedKey) :
    lastValue name read request =
      (canonicalPairs (request.query.map Subtype.val) excludedKey).reverse.findSome?
        (readNamed name read) := by
  unfold lastValue canonicalPairs
  rw [← List.filter_reverse, findSome?_filter]
  · rfl
  · intro pair hexcluded
    have heq : pair.1 = excludedKey := by simpa using hexcluded
    exact if_neg (fun h => hname (h.symm.trans heq))

/-- **A parameter that is not given two values is covered by the signature.** -/
theorem sameSelector_iff (hname : name ≠ excludedKey)
    (hpairs : (canonicalPairs (request.query.map Subtype.val) excludedKey).Perm
      (canonicalPairs (request'.query.map Subtype.val) excludedKey)) :
    SameSelector name read request request' ↔
      lastValue name read request = lastValue name read request' := by
  refine ⟨fun h => h.elim (fun hunrepeated => ?_) id, Or.inr⟩
  rw [lastValue_canonical hname, lastValue_canonical hname]
  apply findSome?_perm (((List.reverse_perm _).trans hpairs).trans (List.reverse_perm _).symm)
  intro a ha b hb x y hx hy
  have hmem : ∀ pair ∈ (canonicalPairs (request.query.map Subtype.val) excludedKey).reverse,
      pair ∈ requestPairs request :=
    fun pair hpair => (List.mem_filter.mp (List.mem_reverse.mp hpair)).1
  unfold readNamed at hx hy
  split at hx
  · rename_i hnamed
    split at hy
    · rename_i hnamed'
      rw [hunrepeated a (hmem a ha) b (hmem b hb) hnamed hnamed', hy] at hx
      exact (Option.some.inj hx).symm
    · cases hy
  · cases hx

end Selectors

/-! ## Section 6: What the handlers read -/

section Readers

/-- A value that is not empty. -/
def nonEmpty (value : String) : Option String := if value = "" then none else some value

def partNumberOf (value : String) : Option Nat :=
  (parseUnsigned 65535 value).filter (fun number => decide (1 ≤ number ∧ number ≤ 10000))

variable {request request' : S3Request} {excludedKey : String}

/-- The last value that is read overwrites what was read before. -/
theorem findSome?_reverse_cons {α β : Type} (f : α → Option β) (a : α) (l : List α)
    (before : Option β) :
    ((a :: l).reverse.findSome? f).or before = (l.reverse.findSome? f).or ((f a).or before) := by
  rw [List.reverse_cons, List.findSome?_append, Option.or_assoc]
  congr 2
  cases hfa : f a with
  | none => simp [hfa]
  | some b => simp [hfa]

theorem readMultipartSelector_ok {selectors selectors' : MultipartSelectors}
    {pair : String × String} (h : readMultipartSelector (.ok selectors) pair = .ok selectors') :
    selectors' = ⟨selectors.initiateUpload || decide (pair.1 = "uploads"),
      (readNamed "uploadId" nonEmpty pair).or selectors.uploadId,
      (readNamed "partNumber" partNumberOf pair).or selectors.partNumber⟩ := by
  unfold readMultipartSelector at h
  dsimp only at h
  by_cases huploads : pair.1 = "uploads"
  · rw [if_pos huploads] at h
    cases h
    simp [readNamed, huploads]
  · rw [if_neg huploads] at h
    by_cases huploadId : pair.1 = "uploadId"
    · by_cases hempty : pair.2 = ""
      · rw [if_neg (by simp [hempty]), if_neg (by simp [huploadId])] at h
        cases h
        simp [readNamed, huploadId, nonEmpty, hempty]
      · rw [if_pos ⟨huploadId, hempty⟩] at h
        cases h
        simp [readNamed, huploadId, nonEmpty, hempty]
    · rw [if_neg (fun hboth => huploadId hboth.1)] at h
      by_cases hpartNumber : pair.1 = "partNumber"
      · by_cases hempty : pair.2 = ""
        · rw [if_neg (by simp [hempty])] at h
          cases h
          have hnone : partNumberOf "" = none := by decide
          simp [readNamed, hpartNumber, hempty, hnone]
        · rw [if_pos ⟨hpartNumber, hempty⟩] at h
          split at h
          · cases h
          · rename_i number hnumber
            cases h
            have hread : partNumberOf pair.2 = some number := hnumber
            simp [readNamed, hpartNumber, hread]
      · rw [if_neg (fun hboth => hpartNumber hboth.1)] at h
        cases h
        simp [readNamed, huploads, huploadId, hpartNumber]

theorem foldl_readMultipartSelector_error (pairs : List (String × String)) (error : S3Error) :
    pairs.foldl readMultipartSelector (.error error) = .error error := by
  induction pairs with
  | nil => rfl
  | cons pair pairs ih => exact ih

theorem foldl_readMultipartSelector {pairs : List (String × String)}
    {selectors selectors' : MultipartSelectors}
    (h : pairs.foldl readMultipartSelector (.ok selectors) = .ok selectors') :
    selectors' = ⟨selectors.initiateUpload || pairs.any (fun pair => decide (pair.1 = "uploads")),
      (pairs.reverse.findSome? (readNamed "uploadId" nonEmpty)).or selectors.uploadId,
      (pairs.reverse.findSome? (readNamed "partNumber" partNumberOf)).or
        selectors.partNumber⟩ := by
  induction pairs generalizing selectors with
  | nil =>
    cases h
    simp
  | cons pair pairs ih =>
    rw [List.foldl_cons] at h
    cases hread : readMultipartSelector (.ok selectors) pair with
    | error error =>
      rw [hread, foldl_readMultipartSelector_error] at h
      cases h
    | ok read =>
      rw [hread] at h
      rw [ih h, readMultipartSelector_ok hread]
      simp only [findSome?_reverse_cons, List.any_cons, Bool.or_assoc]

/-- What the selectors of a multipart request ask for. -/
def multipartOf (initiateUpload : Bool) (uploadId : Option String) (partNumber : Option Nat) :
    MultipartQuery :=
  match uploadId, partNumber with
  | some uploadId, some partNumber => ⟨initiateUpload, some (uploadId, partNumber), none, none⟩
  | some uploadId, none => ⟨initiateUpload, none, some uploadId, some uploadId⟩
  | none, _ => ⟨initiateUpload, none, none, none⟩

/-- A request that asks for `?uploads`. -/
def InitiatesUpload (request : S3Request) : Prop :=
  ∃ pair ∈ requestPairs request, pair.1 = "uploads"

instance (request : S3Request) : Decidable (InitiatesUpload request) :=
  inferInstanceAs (Decidable (∃ pair ∈ requestPairs request, pair.1 = "uploads"))

/-- A request that names an upload and a part of it. -/
def UploadsPart (request : S3Request) : Prop :=
  lastValue "uploadId" nonEmpty request ≠ none ∧ lastValue "partNumber" partNumberOf request ≠ none

theorem parseMultipartQuery_ok {multipart : MultipartQuery}
    (h : parseMultipartQuery (request.query.map Subtype.val) = .ok multipart) :
    multipart = multipartOf (decide (InitiatesUpload request))
      (lastValue "uploadId" nonEmpty request) (lastValue "partNumber" partNumberOf request) := by
  unfold parseMultipartQuery at h
  cases hfold : (requestPairs request).foldl readMultipartSelector (.ok ⟨false, none, none⟩) with
  | error error =>
    unfold requestPairs at hfold
    rw [hfold] at h
    cases h
  | ok selectors =>
    have hread := foldl_readMultipartSelector hfold
    unfold requestPairs at hfold
    rw [hfold] at h
    simp only [Bool.false_or, Option.or_none] at hread
    have hinitiate : selectors.initiateUpload = decide (InitiatesUpload request) := by
      rw [hread, Bool.eq_iff_iff, List.any_eq_true, decide_eq_true_iff]
      simp only [decide_eq_true_eq, InitiatesUpload]
    have huploadId : selectors.uploadId = lastValue "uploadId" nonEmpty request := by
      rw [hread]
      rfl
    have hpartNumber : selectors.partNumber = lastValue "partNumber" partNumberOf request := by
      rw [hread]
      rfl
    rw [← hinitiate, ← huploadId, ← hpartNumber]
    obtain ⟨initiateUpload, uploadId, partNumber⟩ := selectors
    cases uploadId with
    | none =>
      cases h
      rfl
    | some uploadId =>
      cases partNumber with
      | none =>
        cases h
        rfl
      | some partNumber =>
        cases h
        rfl

theorem multipartOf_eq_iff {initiateUpload : Bool} {uploadId uploadId' : Option String}
    {partNumber partNumber' : Option Nat} :
    multipartOf initiateUpload uploadId partNumber =
        multipartOf initiateUpload uploadId' partNumber' ↔
      uploadId = uploadId' ∧ (uploadId ≠ none → partNumber = partNumber') := by
  cases uploadId <;> cases uploadId' <;> cases partNumber <;> cases partNumber' <;>
    simp [multipartOf]

theorem multipartOf_uploadPart {initiateUpload : Bool} {uploadId : Option String}
    {partNumber : Option Nat} :
    (multipartOf initiateUpload uploadId partNumber).uploadPart.isSome ↔
      uploadId ≠ none ∧ partNumber ≠ none := by
  cases uploadId <;> cases partNumber <;> simp [multipartOf]

theorem initiatesUpload_iff (hkey : "uploads" ≠ excludedKey)
    (hpairs : (canonicalPairs (request.query.map Subtype.val) excludedKey).Perm
      (canonicalPairs (request'.query.map Subtype.val) excludedKey)) :
    InitiatesUpload request ↔ InitiatesUpload request' := by
  have hkeep : ∀ request : S3Request, InitiatesUpload request ↔
      ∃ pair ∈ canonicalPairs (request.query.map Subtype.val) excludedKey,
        pair.1 = "uploads" := by
    intro request
    constructor
    · rintro ⟨pair, hpair, hname⟩
      exact ⟨pair, List.mem_filter.mpr ⟨hpair, decide_eq_true (hname ▸ hkey)⟩, hname⟩
    · rintro ⟨pair, hpair, hname⟩
      exact ⟨pair, (List.mem_filter.mp hpair).1, hname⟩
  rw [hkeep, hkeep]
  simp only [hpairs.mem_iff]

theorem readListSelector_eq (parsed : ListObjectsV2Query) (pair : String × String) :
    readListSelector parsed pair =
      ⟨(readNamed "list-type" some pair).or parsed.listType,
        (readNamed "prefix" some pair).or parsed.prefixText,
        (readNamed "max-keys" (parseUnsigned usizeMax) pair).or parsed.maxKeys,
        (readNamed "continuation-token" some pair).or parsed.continuationToken,
        (readNamed "start-after" some pair).or parsed.startAfter,
        (readNamed "delimiter" some pair).or parsed.delimiter⟩ := by
  unfold readListSelector
  split
  · rename_i h
    simp [readNamed, h]
  split
  · rename_i h
    simp [readNamed, h]
  split
  · rename_i h
    simp [readNamed, h]
  split
  · rename_i h
    simp [readNamed, h]
  split
  · rename_i h
    simp [readNamed, h]
  split
  · rename_i h
    cases hvalue : parseUnsigned usizeMax pair.2 with
    | none => simp [readNamed, h, hvalue]
    | some value => simp [readNamed, h, hvalue]
  · rename_i hlistType hprefix hdelimiter htoken hafter hmaxKeys
    simp [readNamed, hlistType, hprefix, hdelimiter, htoken, hafter, hmaxKeys]

theorem parseListObjectsV2Query_eq (request : S3Request) :
    parseListObjectsV2Query (request.query.map Subtype.val) =
      ⟨lastValue "list-type" some request, lastValue "prefix" some request,
        lastValue "max-keys" (parseUnsigned usizeMax) request,
        lastValue "continuation-token" some request, lastValue "start-after" some request,
        lastValue "delimiter" some request⟩ := by
  have hfold : ∀ (pairs : List (String × String)) (parsed : ListObjectsV2Query),
      pairs.foldl readListSelector parsed =
        ⟨(pairs.reverse.findSome? (readNamed "list-type" some)).or parsed.listType,
          (pairs.reverse.findSome? (readNamed "prefix" some)).or parsed.prefixText,
          (pairs.reverse.findSome? (readNamed "max-keys" (parseUnsigned usizeMax))).or
            parsed.maxKeys,
          (pairs.reverse.findSome? (readNamed "continuation-token" some)).or
            parsed.continuationToken,
          (pairs.reverse.findSome? (readNamed "start-after" some)).or parsed.startAfter,
          (pairs.reverse.findSome? (readNamed "delimiter" some)).or parsed.delimiter⟩ := by
    intro pairs
    induction pairs with
    | nil =>
      intro parsed
      rfl
    | cons pair pairs ih =>
      intro parsed
      rw [List.foldl_cons, ih, readListSelector_eq]
      simp only [findSome?_reverse_cons]
  unfold parseListObjectsV2Query
  rw [hfold]
  simp only [ListObjectsV2Query.default, Option.or_none]
  rfl

theorem fieldValue_perm {name : String} {pairs pairs' : List (String × String)}
    (h : pairs.Perm pairs') : fieldValue name pairs = fieldValue name pairs' := by
  have hfilter := h.filter (fun pair => decide (pair.1 = name))
  unfold fieldValue
  generalize pairs.filter (fun pair => decide (pair.1 = name)) = kept at hfilter ⊢
  generalize pairs'.filter (fun pair => decide (pair.1 = name)) = kept' at hfilter ⊢
  match kept, kept', hfilter with
  | [], [], _ => rfl
  | [pair], [pair'], hfilter =>
    rw [List.singleton_perm_singleton.mp hfilter]
  | _ :: _ :: _, _ :: _ :: _, _ => rfl
  | [], _ :: _, hfilter => exact absurd hfilter.length_eq (by simp)
  | _ :: _, [], hfilter => exact absurd hfilter.length_eq (by simp)
  | [_], _ :: _ :: _, hfilter => exact absurd hfilter.length_eq (by simp)
  | _ :: _ :: _, [_], hfilter => exact absurd hfilter.length_eq (by simp)

/-- **The extractor does not see the order of the parameters.** -/
theorem queryExtractor_eq {router : S3Router}
    (hkey : excludedKey = "" ∨ excludedKey = "X-Amz-Signature")
    (hpairs : (canonicalPairs (request.query.map Subtype.val) excludedKey).Perm
      (canonicalPairs (request'.query.map Subtype.val) excludedKey)) :
    queryExtractor router (request.query.map Subtype.val) =
      queryExtractor router (request'.query.map Subtype.val) := by
  have hplain : router.formDecode excludedKey = excludedKey := by
    apply router.formDecode_plain
    · rcases hkey with rfl | rfl <;> decide
    · rcases hkey with rfl | rfl <;> decide
  have hcanonical : ∀ (request : S3Request) (name : String), name ≠ excludedKey →
      fieldValue name ((requestPairs request).map
        (fun pair => (router.formDecode pair.1, router.formDecode pair.2))) =
      fieldValue name ((canonicalPairs (request.query.map Subtype.val) excludedKey).map
        (fun pair => (router.formDecode pair.1, router.formDecode pair.2))) := by
    intro request name hname
    unfold fieldValue canonicalPairs
    rw [List.filter_map, List.filter_map, List.filter_filter]
    have hsame : ∀ pair ∈ requestPairs request,
        ((fun pair : String × String => decide (pair.1 = name)) ∘
          (fun pair => (router.formDecode pair.1, router.formDecode pair.2))) pair =
        (((fun pair : String × String => decide (pair.1 = name)) ∘
          (fun pair => (router.formDecode pair.1, router.formDecode pair.2))) pair &&
            decide (pair.1 ≠ excludedKey)) := by
      intro pair _
      by_cases hexcluded : pair.1 = excludedKey
      · simp [hexcluded, hplain, Ne.symm hname]
      · simp [hexcluded]
    rw [List.filter_congr hsame]
    rfl
  have hfield : ∀ name, name ≠ excludedKey →
      fieldValue name ((requestPairs request).map
        (fun pair => (router.formDecode pair.1, router.formDecode pair.2))) =
      fieldValue name ((requestPairs request').map
        (fun pair => (router.formDecode pair.1, router.formDecode pair.2))) := by
    intro name hname
    rw [hcanonical request name hname, hcanonical request' name hname]
    exact fieldValue_perm (hpairs.map _)
  have hother : ∀ name, name ≠ "" → name ≠ "X-Amz-Signature" → name ≠ excludedKey := by
    intro name hempty hsignature
    rcases hkey with rfl | rfl
    · exact hempty
    · exact hsignature
  simp only [queryExtractor]
  unfold requestPairs at hfield
  rw [hfield "list-type" (hother _ (by decide) (by decide)),
    hfield "prefix" (hother _ (by decide) (by decide)),
    hfield "max-keys" (hother _ (by decide) (by decide)),
    hfield "continuation-token" (hother _ (by decide) (by decide)),
    hfield "start-after" (hother _ (by decide) (by decide)),
    hfield "delimiter" (hother _ (by decide) (by decide))]

end Readers

/-! ## Section 7: Signed headers -/

section Headers

variable {config : DataPlaneConfig} {request request' : S3Request} {signed : Presented}
  {headerLines : List String} {name : String}

/-- A header whose blanks the canonical form keeps, up to those around it. -/
def PlainHeader (name : String) (request : S3Request) : Prop :=
  ∀ value ∈ request.headerStr name, normalizeHeaderValue value.val = trim value.val

/-- A header that is signed, in both requests without two blanks in a row. -/
def SignedPlainly (signedHeaders : List String) (name : String) (request request' : S3Request) :
    Prop :=
  (∃ signedName ∈ signedHeaders, toAsciiLowercase signedName = name) ∧
    PlainHeader name request ∧ PlainHeader name request'

theorem header_toAsciiLowercase (request : S3Request) (name : String) :
    request.header (toAsciiLowercase name) = request.header name := by
  unfold S3Request.header
  rw [toAsciiLowercase_toAsciiLowercase]

/-- **The value of a header that is signed plainly is the same in both requests.** -/
theorem signedPlainly_trim (hsame : SameCanonical request request' signed headerLines)
    (h : SignedPlainly signed.signedHeaders name request request') :
    ∃ value value' : HeaderText, request.header name = some (some value) ∧
      request'.header name = some (some value') ∧ trim value.val = trim value'.val := by
  obtain ⟨⟨signedName, hsigned, rfl⟩, hplain, hplain'⟩ := h
  have hlines := (mapM_ok hsame.headers).mp (fun name line hline hline' =>
    And.intro hline hline') (mapM_ok hsame.headers')
  obtain ⟨line, -, hline, hline'⟩ := exists_of_mem_forall₂ hlines.flip signedName hsigned
  obtain ⟨value, hvalue, rfl⟩ := canonicalHeader_ok hline
  obtain ⟨value', hvalue', heq⟩ := canonicalHeader_ok hline'
  have hnormal := (String.append_right_inj _).mp heq
  rw [← header_toAsciiLowercase] at hvalue hvalue'
  refine ⟨value, value', hvalue, hvalue', ?_⟩
  have hread : ∀ {request : S3Request} {value : HeaderText},
      request.header (toAsciiLowercase signedName) = some (some value) →
        value ∈ request.headerStr (toAsciiLowercase signedName) := by
    intro request value h
    unfold S3Request.headerStr
    rw [h]
    rfl
  rw [← hplain value (hread hvalue), ← hplain' value' (hread hvalue'), hnormal]

theorem bucketFromVirtualHost_covered
    (hsame : SameCanonical request request' signed headerLines)
    (h : SignedPlainly signed.signedHeaders "host" request request') :
    bucketFromVirtualHost request = bucketFromVirtualHost request' := by
  obtain ⟨value, value', hvalue, hvalue', htrim⟩ := signedPlainly_trim hsame h
  simp only [bucketFromVirtualHost, S3Request.headerStr, hvalue, hvalue', Option.join_some,
    Option.bind_some, bucketOfHost, htrim]

theorem copySourceOf_covered {router : S3Router}
    (hsame : SameCanonical request request' signed headerLines)
    (h : SignedPlainly signed.signedHeaders "x-amz-copy-source" request request') :
    copySourceOf router request = copySourceOf router request' := by
  obtain ⟨value, value', hvalue, hvalue', htrim⟩ := signedPlainly_trim hsame h
  simp only [copySourceOf, hvalue, hvalue', parseCopySourceHeader, htrim]

end Headers

/-! ## Section 8: Operations -/

section Operations

variable {router : S3Router} {request : S3Request} {op : S3Operation}

/-- The methods whose handlers read the selectors of a multipart upload. -/
def ReadsMultipart (method : String) : Prop := method ∈ ["PUT", "POST", "DELETE"]

instance (method : String) : Decidable (ReadsMultipart method) :=
  inferInstanceAs (Decidable (method ∈ ["PUT", "POST", "DELETE"]))

/-- A PUT that is not an UploadPart looks for a copy source. -/
def ReadsCopySource (request : S3Request) : Prop :=
  request.method.val = "PUT" ∧ ¬ UploadsPart request

/-- The list of a bucket that the host names. -/
def ListsVirtualBucket (router : S3Router) (request : S3Request) : Prop :=
  router.route request.path.val = some .root ∧ bucketFromVirtualHost request ≠ none

/-- The bucket and the key that a path and a host stand for. -/
def targetOf (route : Option S3Path) (virtualBucket : Option String) (path : String) :
    Option String × Option String :=
  match route, virtualBucket with
  | none, _ => (none, none)
  | some .root, virtualBucket => (virtualBucket, none)
  | some _, some bucket => (some bucket, some (trimStartMatches '/' path))
  | some (.segment segment), none => (some segment, none)
  | some (.object bucket key), none => (some bucket, some key)

/-- The list query that a path, a host and a method stand for. -/
def listingOf (route : Option S3Path) (virtualBucket : Option String) (method : String)
    (parsed : ListObjectsV2Query) (extracted : Option ListObjectsV2Query) :
    Option ListObjectsV2Query :=
  match route, virtualBucket with
  | some .root, some _ => some parsed
  | some (.segment _), none => if method = "GET" then extracted else none
  | _, _ => none

/-- What an operation is read from. -/
structure ReadFrom (router : S3Router) (request : S3Request) (op : S3Operation) : Prop where
  path : router.route request.path.val ≠ none
  method : op.method = request.method.val
  target : (op.bucket, op.key) =
    targetOf (router.route request.path.val) (bucketFromVirtualHost request) request.path.val
  multipart : op.multipart = if ReadsMultipart request.method.val then
      some (multipartOf (decide (InitiatesUpload request)) (lastValue "uploadId" nonEmpty request)
        (lastValue "partNumber" partNumberOf request))
    else none
  listing : op.listing =
    listingOf (router.route request.path.val) (bucketFromVirtualHost request) request.method.val
      (parseListObjectsV2Query (request.query.map Subtype.val))
      (queryExtractor router (request.query.map Subtype.val))
  copySource : ReadsCopySource request → copySourceOf router request = .ok op.copySource
  noCopySource : ¬ ReadsCopySource request → op.copySource = none

theorem resolveBucketAndKeyForObjectPath_ok {pathBucket pathKey bucket key : String}
    (h : resolveBucketAndKeyForObjectPath request pathBucket pathKey = .ok (bucket, key)) :
    (bucketFromVirtualHost request = none ∧ bucket = pathBucket ∧ key = pathKey) ∨
      (bucketFromVirtualHost request = some bucket ∧
        key = trimStartMatches '/' request.path.val) := by
  unfold resolveBucketAndKeyForObjectPath at h
  split at h
  · rename_i virtualBucket hvirtual
    dsimp only at h
    split at h
    · cases h
    · cases h
      exact Or.inr ⟨hvirtual, rfl⟩
  · rename_i hnone
    cases h
    exact Or.inl ⟨hnone, rfl, rfl⟩

/-- What the handlers of an object read. -/
theorem objectOperation_ok {pathBucket pathKey : String}
    (h : objectOperation router request pathBucket pathKey = some (.ok op)) :
    ∃ bucket key, resolveBucketAndKeyForObjectPath request pathBucket pathKey = .ok (bucket, key) ∧
      op.method = request.method.val ∧ op.bucket = some bucket ∧ op.key = some key ∧
      op.listing = none ∧
      (op.multipart = if ReadsMultipart request.method.val then
        some (multipartOf (decide (InitiatesUpload request))
          (lastValue "uploadId" nonEmpty request) (lastValue "partNumber" partNumberOf request))
        else none) ∧
      (ReadsCopySource request → copySourceOf router request = .ok op.copySource) ∧
      (¬ ReadsCopySource request → op.copySource = none) := by
  unfold objectOperation at h
  dsimp only at h
  split at h
  · rename_i hmethod
    have hread : ¬ ReadsMultipart request.method.val := by
      rcases hmethod with hmethod | hmethod <;> rw [hmethod] <;> decide
    have hcopy : ¬ ReadsCopySource request := by
      rintro ⟨hput, -⟩
      rw [hput] at hmethod
      exact absurd hmethod (by decide)
    obtain ⟨⟨bucket, key⟩, hresolved, hrest⟩ := except_bind_ok.mp (Option.some.inj h)
    cases hrest
    exact ⟨bucket, key, hresolved, rfl, rfl, rfl, rfl, (if_neg hread).symm,
      fun hcopy' => absurd hcopy' hcopy, fun _ => rfl⟩
  split at h
  · rename_i hmethod
    have hread : ReadsMultipart request.method.val := by
      rw [hmethod]
      decide
    obtain ⟨⟨bucket, key⟩, hresolved, h1⟩ := except_bind_ok.mp (Option.some.inj h)
    obtain ⟨multipart, hmultipart, h2⟩ := except_bind_ok.mp h1
    have hparsed := parseMultipartQuery_ok hmultipart
    have hpart : multipart.uploadPart.isSome ↔ UploadsPart request := by
      rw [hparsed, multipartOf_uploadPart]
      rfl
    by_cases huploadPart : multipart.uploadPart.isSome
    · rw [if_pos huploadPart] at h2
      cases h2
      refine ⟨bucket, key, hresolved, rfl, rfl, rfl, rfl, ?_, ?_, fun _ => rfl⟩
      · rw [if_pos hread, hparsed]
      · exact fun hcopy => absurd (hpart.mp huploadPart) hcopy.2
    · rw [if_neg huploadPart] at h2
      obtain ⟨copySource, hcopySource, h3⟩ := except_bind_ok.mp h2
      cases h3
      refine ⟨bucket, key, hresolved, rfl, rfl, rfl, rfl, ?_, fun _ => hcopySource, ?_⟩
      · rw [if_pos hread, hparsed]
      · exact fun hcopy => absurd ⟨hmethod, fun hupload => huploadPart (hpart.mpr hupload)⟩ hcopy
  split at h
  · rename_i hnotPut hmethod
    have hread : ReadsMultipart request.method.val := by
      rw [hmethod]
      decide
    obtain ⟨⟨bucket, key⟩, hresolved, h1⟩ := except_bind_ok.mp (Option.some.inj h)
    obtain ⟨multipart, hmultipart, h2⟩ := except_bind_ok.mp h1
    have hparsed := parseMultipartQuery_ok hmultipart
    split at h2
    · cases h2
      refine ⟨bucket, key, hresolved, rfl, rfl, rfl, rfl, ?_, ?_, fun _ => rfl⟩
      · rw [if_pos hread, hparsed]
      · exact fun hcopy => absurd hcopy.1 hnotPut
    · cases h2
  split at h
  · rename_i hnotPut _ hmethod
    have hread : ReadsMultipart request.method.val := by
      rw [hmethod]
      decide
    obtain ⟨⟨bucket, key⟩, hresolved, h1⟩ := except_bind_ok.mp (Option.some.inj h)
    obtain ⟨multipart, hmultipart, h2⟩ := except_bind_ok.mp h1
    have hparsed := parseMultipartQuery_ok hmultipart
    cases h2
    refine ⟨bucket, key, hresolved, rfl, rfl, rfl, rfl, ?_, ?_, fun _ => rfl⟩
    · rw [if_pos hread, hparsed]
    · exact fun hcopy => absurd hcopy.1 hnotPut
  · cases h

theorem not_readsMultipart_of_get {method : String} (h : method = "GET" ∨ method = "HEAD") :
    ¬ ReadsMultipart method := by
  rcases h with rfl | rfl <;> decide

theorem not_readsCopySource_of_get (h : request.method.val = "GET" ∨ request.method.val = "HEAD") :
    ¬ ReadsCopySource request := by
  rintro ⟨hput, -⟩
  rw [hput] at h
  exact absurd h (by decide)

/-- **An operation is what its request reads.** -/
theorem operation_ok (h : operation router request = some (.ok op)) :
    ReadFrom router request op := by
  unfold operation at h
  cases hroute : router.route request.path.val with
  | none =>
    rw [hroute] at h
    cases h
  | some path =>
    have hpath : router.route request.path.val ≠ none := by simp [hroute]
    rw [hroute] at h
    cases path with
    | root =>
      dsimp only at h
      split at h
      · rename_i hmethod
        cases h
        refine ⟨hpath, rfl, ?_, (if_neg (not_readsMultipart_of_get hmethod)).symm, ?_,
          fun hcopy => absurd hcopy (not_readsCopySource_of_get hmethod), fun _ => rfl⟩
        · rw [hroute]
          rfl
        · rw [hroute]
          cases bucketFromVirtualHost request <;> rfl
      · cases h
    | segment segment =>
      cases hvirtual : bucketFromVirtualHost request with
      | some bucket =>
        rw [hvirtual] at h
        dsimp only at h
        split at h
        · cases h
        · obtain ⟨bucket', key, hresolved, hmethod, hbucket, hkey, hlisting, hmultipart, hcopy,
            hnoCopy⟩ := objectOperation_ok h
          rcases resolveBucketAndKeyForObjectPath_ok hresolved with ⟨hnone, -⟩ | ⟨hsome, rfl⟩
          · rw [hvirtual] at hnone
            cases hnone
          · refine ⟨hpath, hmethod, ?_, hmultipart, ?_, hcopy, hnoCopy⟩
            · rw [hroute, hsome, hbucket, hkey]
              rfl
            · rw [hroute, hvirtual, hlisting]
              rfl
      | none =>
        rw [hvirtual] at h
        dsimp only at h
        split at h
        · rename_i hmethod
          obtain ⟨query, hquery, hop⟩ := Option.map_eq_some_iff.mp h
          cases hop
          have hget : request.method.val = "GET" ∨ request.method.val = "HEAD" := Or.inl hmethod
          refine ⟨hpath, rfl, ?_, (if_neg (not_readsMultipart_of_get hget)).symm, ?_,
            fun hcopy => absurd hcopy (not_readsCopySource_of_get hget), fun _ => rfl⟩
          · rw [hroute, hvirtual]
            rfl
          · rw [hroute, hvirtual, hquery]
            exact (if_pos hmethod).symm
        split at h
        · rename_i hnotGet hmethod
          cases h
          have hget : request.method.val = "GET" ∨ request.method.val = "HEAD" := Or.inr hmethod
          refine ⟨hpath, rfl, ?_, (if_neg (not_readsMultipart_of_get hget)).symm, ?_,
            fun hcopy => absurd hcopy (not_readsCopySource_of_get hget), fun _ => rfl⟩
          · rw [hroute, hvirtual]
            rfl
          · rw [hroute, hvirtual]
            exact (if_neg hnotGet).symm
        split at h
        · cases h
        · cases h
    | object pathBucket pathKey =>
      obtain ⟨bucket, key, hresolved, hmethod, hbucket, hkey, hlisting, hmultipart, hcopy,
        hnoCopy⟩ := objectOperation_ok h
      rcases resolveBucketAndKeyForObjectPath_ok hresolved with ⟨hnone, rfl, rfl⟩ | ⟨hsome, rfl⟩
      · refine ⟨hpath, hmethod, ?_, hmultipart, ?_, hcopy, hnoCopy⟩
        · rw [hroute, hnone, hbucket, hkey]
          rfl
        · rw [hroute, hnone, hlisting]
          rfl
      · refine ⟨hpath, hmethod, ?_, hmultipart, ?_, hcopy, hnoCopy⟩
        · rw [hroute, hsome, hbucket, hkey]
          rfl
        · rw [hroute, hsome, hlisting]
          rfl

/-- Under one path, two hosts that name different buckets stand for different objects. -/
theorem targetOf_injective {path : String} {virtualBucket virtualBucket' : Option String}
    (hroute : router.route path ≠ none)
    (h : targetOf (router.route path) virtualBucket path =
      targetOf (router.route path) virtualBucket' path) : virtualBucket = virtualBucket' := by
  cases hpath : router.route path with
  | none => exact absurd hpath hroute
  | some kind =>
    rw [hpath] at h
    cases kind with
    | root =>
      cases virtualBucket <;> cases virtualBucket' <;> simp_all [targetOf]
    | segment segment =>
      cases virtualBucket <;> cases virtualBucket' <;> simp_all [targetOf]
    | object bucket key =>
      have hshorter := router.key_shorter path bucket key hpath
      have hdiffer : trimStartMatches '/' path ≠ key := by
        intro heq
        rw [heq] at hshorter
        exact absurd hshorter (lt_irrefl _)
      cases virtualBucket <;> cases virtualBucket' <;>
        simp_all [targetOf, Ne.symm hdiffer]

/-- **The parts of two requests that their signature has to cover, or that agree anyway.** -/
structure Agree (router : S3Router) (signedHeaders : List String) (request request' : S3Request) :
    Prop where
  host : SignedPlainly signedHeaders "host" request request' ∨
    bucketFromVirtualHost request = bucketFromVirtualHost request'
  uploadId : ReadsMultipart request.method.val →
    SameSelector "uploadId" nonEmpty request request'
  partNumber : ReadsMultipart request.method.val → lastValue "uploadId" nonEmpty request ≠ none →
    SameSelector "partNumber" partNumberOf request request'
  copySource : ReadsCopySource request →
    SignedPlainly signedHeaders "x-amz-copy-source" request request' ∨
      copySourceOf router request = copySourceOf router request'
  texts : ListsVirtualBucket router request →
    ∀ name ∈ ["list-type", "prefix", "continuation-token", "start-after", "delimiter"],
      SameSelector name some request request'
  maxKeys : ListsVirtualBucket router request →
    SameSelector "max-keys" (parseUnsigned usizeMax) request request'

end Operations

/-! ## Section 9: The effect of a signature -/

section Effect

variable {config : DataPlaneConfig} {request request' : S3Request} {signed : Presented}
  {headerLines : List String} {op op' : S3Operation}

theorem mode_key {request : S3Request} {excludedKey : String} (h : ModeOf request excludedKey) :
    excludedKey = "" ∨ excludedKey = "X-Amz-Signature" :=
  h.imp And.left And.left

theorem uploadsPart_congr
    (huploadId : lastValue "uploadId" nonEmpty request = lastValue "uploadId" nonEmpty request')
    (hpartNumber : lastValue "uploadId" nonEmpty request ≠ none →
      lastValue "partNumber" partNumberOf request = lastValue "partNumber" partNumberOf request') :
    UploadsPart request ↔ UploadsPart request' := by
  unfold UploadsPart
  rw [← huploadId]
  constructor
  · rintro ⟨hupload, hpart⟩
    exact ⟨hupload, hpartNumber hupload ▸ hpart⟩
  · rintro ⟨hupload, hpart⟩
    exact ⟨hupload, (hpartNumber hupload).symm ▸ hpart⟩

/-- The canonical query keeps every name that selects something. -/
theorem ne_excludedKey (hmode : ModeOf request signed.excludedKey)
    {name : String} (hempty : name ≠ "") (hsignature : name ≠ "X-Amz-Signature") :
    name ≠ signed.excludedKey := by
  rcases mode_key hmode with hkey | hkey <;> rw [hkey]
  · exact hempty
  · exact hsignature

theorem path_eq (hsame : SameCanonical request request' signed headerLines)
    (h : ReadFrom config.router request op) (h' : ReadFrom config.router request' op') :
    request.path.val = request'.path.val := by
  have hnonempty : ∀ {request : S3Request}, config.router.route request.path.val ≠ none →
      request.path.val ≠ "" := by
    intro request hroute hempty
    rw [hempty] at hroute
    exact hroute config.router.route_empty
  have huri := hsame.uri
  unfold canonicalUri at huri
  rwa [if_neg (hnonempty h.path), if_neg (hnonempty h'.path)] at huri

theorem target_eq_iff (hsame : SameCanonical request request' signed headerLines)
    (h : ReadFrom config.router request op) (h' : ReadFrom config.router request' op') :
    (op.bucket, op.key) = (op'.bucket, op'.key) ↔
      (SignedPlainly signed.signedHeaders "host" request request' ∨
        bucketFromVirtualHost request = bucketFromVirtualHost request') := by
  rw [h.target, h'.target, ← path_eq hsame h h']
  constructor
  · exact fun htarget => Or.inr (targetOf_injective h.path htarget)
  · intro hhost
    have hbucket := hhost.elim (bucketFromVirtualHost_covered hsame) id
    rw [hbucket]

/-- The selectors of an upload are the same if the last ones are. -/
theorem selectors_iff (hmode : ModeOf request signed.excludedKey)
    (hsame : SameCanonical request request' signed headerLines) :
    (SameSelector "uploadId" nonEmpty request request' ∧
      (lastValue "uploadId" nonEmpty request ≠ none →
        SameSelector "partNumber" partNumberOf request request')) ↔
    (lastValue "uploadId" nonEmpty request = lastValue "uploadId" nonEmpty request' ∧
      (lastValue "uploadId" nonEmpty request ≠ none →
        lastValue "partNumber" partNumberOf request =
          lastValue "partNumber" partNumberOf request')) := by
  rw [sameSelector_iff (ne_excludedKey hmode (by decide) (by decide)) hsame.pairs,
    sameSelector_iff (ne_excludedKey hmode (by decide) (by decide)) hsame.pairs]

theorem multipart_eq_iff (hmode : ModeOf request signed.excludedKey)
    (hsame : SameCanonical request request' signed headerLines)
    (h : ReadFrom config.router request op) (h' : ReadFrom config.router request' op') :
    op.multipart = op'.multipart ↔
      (ReadsMultipart request.method.val →
        SameSelector "uploadId" nonEmpty request request' ∧
          (lastValue "uploadId" nonEmpty request ≠ none →
            SameSelector "partNumber" partNumberOf request request')) := by
  have hinitiate : decide (InitiatesUpload request) = decide (InitiatesUpload request') :=
    decide_eq_decide.mpr
      (initiatesUpload_iff (ne_excludedKey hmode (by decide) (by decide)) hsame.pairs)
  rw [h.multipart, h'.multipart, ← hsame.method, ← hinitiate]
  by_cases hread : ReadsMultipart request.method.val
  · rw [if_pos hread, if_pos hread, Option.some_inj, multipartOf_eq_iff,
      ← selectors_iff hmode hsame]
    exact ⟨fun hselectors _ => hselectors, fun hselectors => hselectors hread⟩
  · rw [if_neg hread, if_neg hread]
    exact ⟨fun _ hread' => absurd hread' hread, fun _ => rfl⟩

/-- Only the list of a virtual bucket is read from the last values. -/
theorem listingOf_congr {virtualBucket : Option String}
    {parsed parsed' : ListObjectsV2Query} {extracted : Option ListObjectsV2Query} {method : String}
    {route : Option S3Path}
    (hlists : route = some .root ∧ virtualBucket ≠ none → parsed = parsed') :
    listingOf route virtualBucket method parsed extracted =
      listingOf route virtualBucket method parsed' extracted := by
  unfold listingOf
  split
  · rw [hlists ⟨rfl, by simp⟩]
  · rfl
  · rfl

theorem listing_eq_iff (hmode : ModeOf request signed.excludedKey)
    (hsame : SameCanonical request request' signed headerLines)
    (h : ReadFrom config.router request op) (h' : ReadFrom config.router request' op')
    (hbucket : bucketFromVirtualHost request = bucketFromVirtualHost request') :
    op.listing = op'.listing ↔
      (ListsVirtualBucket config.router request →
        (∀ name ∈ ["list-type", "prefix", "continuation-token", "start-after", "delimiter"],
          SameSelector name some request request') ∧
        SameSelector "max-keys" (parseUnsigned usizeMax) request request') := by
  have hextracted := @queryExtractor_eq _ _ _ config.router (mode_key hmode) hsame.pairs
  have htext : ∀ name ∈ ["list-type", "prefix", "continuation-token", "start-after", "delimiter"],
      (SameSelector name some request request' ↔
        lastValue name some request = lastValue name some request') := by
    intro name hname
    apply sameSelector_iff _ hsame.pairs
    apply ne_excludedKey hmode
    · rintro rfl
      exact absurd hname (by decide)
    · rintro rfl
      exact absurd hname (by decide)
  have hmaxKeys : SameSelector "max-keys" (parseUnsigned usizeMax) request request' ↔ _ :=
    sameSelector_iff (ne_excludedKey hmode (by decide) (by decide)) hsame.pairs
  rw [h.listing, h'.listing, ← path_eq hsame h h', ← hbucket, ← hsame.method, ← hextracted,
    parseListObjectsV2Query_eq, parseListObjectsV2Query_eq]
  constructor
  · rintro hlisting ⟨hroot, hvirtual⟩
    obtain ⟨bucket, hsome⟩ := Option.ne_none_iff_exists'.mp hvirtual
    rw [hroot, hsome] at hlisting
    have hfields := Option.some.inj hlisting
    simp only [ListObjectsV2Query.mk.injEq] at hfields
    obtain ⟨hlistType, hprefix, hkeys, htoken, hafter, hdelimiter⟩ := hfields
    refine ⟨fun name hname => (htext name hname).mpr ?_, hmaxKeys.mpr hkeys⟩
    simp only [List.mem_cons, List.not_mem_nil, or_false] at hname
    rcases hname with rfl | rfl | rfl | rfl | rfl
    · exact hlistType
    · exact hprefix
    · exact htoken
    · exact hafter
    · exact hdelimiter
  · intro hselectors
    apply listingOf_congr
    intro hlists
    obtain ⟨htexts, hkeys⟩ := hselectors hlists
    have hlast : ∀ name ∈
        ["list-type", "prefix", "continuation-token", "start-after", "delimiter"],
        lastValue name some request = lastValue name some request' :=
      fun name hname => (htext name hname).mp (htexts name hname)
    rw [hlast "list-type" (by decide), hlast "prefix" (by decide), hmaxKeys.mp hkeys,
      hlast "continuation-token" (by decide), hlast "start-after" (by decide),
      hlast "delimiter" (by decide)]

theorem copySource_eq_iff (hmode : ModeOf request signed.excludedKey)
    (hsame : SameCanonical request request' signed headerLines)
    (h : ReadFrom config.router request op) (h' : ReadFrom config.router request' op')
    (hmultipart : op.multipart = op'.multipart) :
    op.copySource = op'.copySource ↔
      (ReadsCopySource request →
        (SignedPlainly signed.signedHeaders "x-amz-copy-source" request request' ∨
          copySourceOf config.router request = copySourceOf config.router request')) := by
  have hboth : ReadsCopySource request ↔ ReadsCopySource request' := by
    unfold ReadsCopySource
    rw [← hsame.method]
    apply and_congr_right
    intro hput
    have hread : ReadsMultipart request.method.val := by
      rw [hput]
      decide
    obtain ⟨huploadId, hpartNumber⟩ := (selectors_iff hmode hsame).mp
      ((multipart_eq_iff hmode hsame h h').mp hmultipart hread)
    exact not_congr (uploadsPart_congr huploadId hpartNumber)
  constructor
  · intro heq hcopy
    right
    rw [h.copySource hcopy, h'.copySource (hboth.mp hcopy), heq]
  · intro hsources
    by_cases hcopy : ReadsCopySource request
    · have heq := (hsources hcopy).elim (copySourceOf_covered hsame) id
      rw [h.copySource hcopy, h'.copySource (hboth.mp hcopy)] at heq
      exact Except.ok.inj heq
    · rw [h.noCopySource hcopy, h'.noCopySource (fun hcopy' => hcopy (hboth.mpr hcopy'))]

/-- What the canonical request leaves open decides whether two operations are the same. -/
theorem operation_eq_iff (hmode : ModeOf request signed.excludedKey)
    (hsame : SameCanonical request request' signed headerLines)
    (h : ReadFrom config.router request op) (h' : ReadFrom config.router request' op') :
    op = op' ↔ Agree config.router signed.signedHeaders request request' := by
  have htarget := target_eq_iff hsame h h'
  have hmultipart := multipart_eq_iff hmode hsame h h'
  have hlisting := listing_eq_iff hmode hsame h h'
  have hcopy := copySource_eq_iff hmode hsame h h'
  constructor
  · intro heq
    have hhost := htarget.mp (by rw [heq])
    have hbucket := hhost.elim (bucketFromVirtualHost_covered hsame) id
    have hmultipartEq : op.multipart = op'.multipart := by rw [heq]
    have hselectors := hmultipart.mp hmultipartEq
    have hlists := (hlisting hbucket).mp (by rw [heq])
    exact ⟨hhost, fun hread => (hselectors hread).1, fun hread => (hselectors hread).2,
      (hcopy hmultipartEq).mp (by rw [heq]), fun hread => (hlists hread).1,
      fun hread => (hlists hread).2⟩
  · intro hagree
    have hbucket := hagree.host.elim (bucketFromVirtualHost_covered hsame) id
    have htargetEq := htarget.mpr hagree.host
    have hmultipartEq := hmultipart.mpr
      (fun hread => ⟨hagree.uploadId hread, hagree.partNumber hread⟩)
    have hlistingEq := (hlisting hbucket).mpr
      (fun hlists => ⟨hagree.texts hlists, hagree.maxKeys hlists⟩)
    have hcopyEq := (hcopy hmultipartEq).mpr hagree.copySource
    have hmethodEq : op.method = op'.method := by rw [h.method, h'.method, hsame.method]
    obtain ⟨hbucketEq, hkeyEq⟩ := Prod.mk.inj htargetEq
    cases op
    cases op'
    simp only [S3Operation.mk.injEq]
    exact ⟨hmethodEq, hbucketEq, hkeyEq, hmultipartEq, hlistingEq, hcopyEq⟩

/-- The operation that two accepted requests with one signature ask for, and their bodies. -/
def SameEffect (signed : Presented) (request request' : S3Request) (op op' : S3Operation) : Prop :=
  op = op' ∧ (signed.payloadHash ≠ "UNSIGNED-PAYLOAD" →
    request.body.getD [] = request'.body.getD [])

/-- **A signature covers the effect exactly if the requests agree on what is not signed.** -/
theorem signature_covers_effect_iff {config : DataPlaneConfig}
    (hsha : Function.Injective config.sha256Hex)
    (hhmac : ∀ key, Function.Injective (config.hmacSha256 key))
    {nowSecs nowSecs' : Nat} {request request' : S3Request} {application application' : String}
    {signed signed' : Presented} {op op' : S3Operation}
    (hauthorized : authorizeS3 config nowSecs request = .ok application)
    (hauthorized' : authorizeS3 config nowSecs' request' = .ok application')
    (hpresented : presented config request = .ok signed)
    (hpresented' : presented config request' = .ok signed')
    (hcredential : signed.scope = signed'.scope)
    (hsignature : signed.signature = signed'.signature)
    (hop : operation config.router request = some (.ok op))
    (hop' : operation config.router request' = some (.ok op')) :
    SameEffect signed request request' op op' ↔
      Agree config.router signed.signedHeaders request request' := by
  obtain ⟨found, headerLines, haccepted⟩ := authorizeS3_ok hauthorized
  obtain ⟨found', headerLines', haccepted'⟩ := authorizeS3_ok hauthorized'
  obtain rfl : signed = found := Except.ok.inj (hpresented.symm.trans haccepted.presented)
  obtain rfl : signed' = found' := Except.ok.inj (hpresented'.symm.trans haccepted'.presented)
  obtain ⟨rfl, hsame⟩ := presented_eq hsha hhmac haccepted haccepted' hcredential hsignature
  have hiff := operation_eq_iff haccepted.mode hsame (operation_ok hop) (operation_ok hop')
  -- the body is fixed by the payload hash, which is signed
  have hbody : signed.payloadHash ≠ "UNSIGNED-PAYLOAD" →
      request.body.getD [] = request'.body.getD [] := by
    intro hsigned
    exact hsha ((haccepted.payload hsigned).trans (haccepted'.payload hsigned).symm)
  constructor
  · exact fun heffect => hiff.mp heffect.1
  · exact fun hagree => ⟨hiff.mpr hagree, hbody⟩

/-! ### A signature that leaves the host out -/

section Sample

/-- A function with one value set. -/
def patched {α β : Type} [DecidableEq α] (special : α) (value : β) (rest : α → β) (a : α) : β :=
  if a = special then value else rest a

theorem patched_injective {α β : Type} [DecidableEq α] {special : α} {value : β} {rest : α → β}
    (hrest : Function.Injective rest) (hvalue : ∀ a, a ≠ special → rest a ≠ value) :
    Function.Injective (patched special value rest) := by
  intro a b h
  unfold patched at h
  split at h
  · rename_i ha
    split at h
    · rename_i hb
      exact ha.trans hb.symm
    · rename_i hb
      exact absurd h.symm (hvalue b hb)
  · rename_i ha
    split at h
    · exact absurd h (hvalue a ha)
    · exact hrest h

def sampleRoute (path : String) : Option S3Path :=
  match stripPrefix "/" path with
  | none => none
  | some rest =>
    if rest = "" then some .root
    else
      match splitOnce '/' rest with
      | none => some (.segment rest)
      | some (bucket, key) => if bucket = "" ∨ key = "" then none else some (.object bucket key)

theorem sampleRoute_key_shorter (path bucket key : String)
    (h : sampleRoute path = some (.object bucket key)) :
    key.toList.length < (trimStartMatches '/' path).toList.length := by
  unfold sampleRoute at h
  split at h
  · cases h
  · rename_i rest hrest
    split at h
    · cases h
    · split at h
      · cases h
      · rename_i bucket' key' hsplit
        split at h
        · cases h
        · rename_i hnonempty
          cases h
          obtain ⟨hbucket, rfl⟩ := splitOnce_eq_some hsplit
          unfold stripPrefix at hrest
          split at hrest
          · rename_i hprefix
            obtain ⟨tail, htail⟩ := List.isPrefixOf_iff_prefix.mp hprefix
            have hlist := congrArg String.toList (Option.some.inj hrest)
            rw [String.toList_ofList, ← htail, List.drop_left] at hlist
            unfold trimStartMatches
            rw [String.toList_ofList, ← htail, hlist]
            cases hchars : bucket.toList with
            | nil => exact absurd (Or.inl (String.toList_eq_nil_iff.mp hchars)) hnonempty
            | cons c cs =>
              have hc : c ≠ '/' := fun heq => hbucket (by simp [hchars, heq])
              simp [hchars, hc, List.dropWhile]
              omega
          · cases hrest

/-- A router that knows texts without an escape only. -/
def sampleRouter : S3Router where
  route := sampleRoute
  percentDecodeUtf8 := fun text => if '%' ∈ text.toList then none else some text
  formDecode := id
  route_empty := by decide
  key_shorter := sampleRoute_key_shorter
  formDecode_plain := fun _ _ _ => rfl

def sampleCanonicalRequest : String :=
  "GET\n/cat.png\n\nx-amz-date:20240101T000000Z\n\nx-amz-date\nUNSIGNED-PAYLOAD"

def sampleDigest : String := "a7b9d1a8b1a31d685aa5d7f10abb0deac42fd40d9816c8f3a47dee78dc9ff211"

def sampleSha256Hex : Bytes → String :=
  patched (asBytes sampleCanonicalRequest) sampleDigest
    (patched [] "e3b0c44298fc1c149afbf4c8996fb92427ae41e4649b934ca495991b7852b855"
      (fun bytes => "-" ++ hexEncode bytes))

def sampleDateKey : Bytes :=
  [135, 231, 97, 124, 29, 65, 0, 112, 160, 158, 156, 208, 124, 238, 209, 36, 84, 157, 67, 220,
    57, 159, 83, 115, 54, 165, 109, 58, 98, 148, 102, 116]

def sampleRegionKey : Bytes :=
  [37, 0, 113, 224, 237, 46, 86, 234, 62, 165, 198, 167, 254, 155, 106, 126, 160, 101, 189, 142,
    28, 234, 143, 9, 116, 16, 38, 157, 78, 65, 99, 140]

def sampleServiceKey : Bytes :=
  [177, 83, 176, 72, 136, 215, 55, 176, 185, 69, 216, 62, 252, 169, 59, 9, 13, 91, 123, 251, 71,
    63, 50, 33, 66, 26, 188, 172, 30, 29, 98, 58]

def sampleSigningKey : Bytes :=
  [33, 149, 45, 180, 115, 43, 67, 122, 181, 181, 239, 167, 209, 234, 18, 81, 60, 127, 3, 236, 109,
    247, 56, 127, 90, 186, 227, 83, 26, 105, 158, 131]

def sampleSignatureBytes : Bytes :=
  [70, 91, 163, 228, 176, 220, 167, 245, 201, 192, 140, 29, 30, 213, 79, 98, 82, 169, 121, 47, 187,
    149, 153, 229, 135, 80, 17, 39, 13, 189, 237, 143]

def sampleStringToSign : String :=
  "AWS4-HMAC-SHA256\n20240101T000000Z\n20240101/us-east-1/s3/aws4_request\n" ++ sampleDigest

/-- The one message that each key of the sample signs, and its code. -/
def sampleCodes : List (Bytes × String × Bytes) :=
  [(asBytes "AWS4s3cr3t-key", "20240101", sampleDateKey),
    (sampleDateKey, "us-east-1", sampleRegionKey),
    (sampleRegionKey, "s3", sampleServiceKey),
    (sampleServiceKey, "aws4_request", sampleSigningKey),
    (sampleSigningKey, sampleStringToSign, sampleSignatureBytes)]

def sampleHmac (key : Bytes) : Bytes → Bytes :=
  match sampleCodes.find? (fun entry => decide (entry.1 = key)) with
  | none => fun message => List.replicate 33 0 ++ message
  | some entry =>
    patched (asBytes entry.2.1) entry.2.2 (fun message => List.replicate 33 0 ++ message)

def sampleDataPlane : DataPlaneConfig where
  router := sampleRouter
  s3Region := "us-east-1"
  applications := [⟨"gallery", true, "AKIDEXAMPLE", "s3cr3t-key"⟩]
  sha256Hex := sampleSha256Hex
  hmacSha256 := sampleHmac
  parseAmzDatetimeToUnix := fun text =>
    if text = "20240101T000000Z" then .ok 1704067200
    else .error (.signatureMismatch "X-Amz-Date must be in yyyyMMddTHHmmssZ format.")

theorem sampleSha256Hex_injective : Function.Injective sampleSha256Hex := by
  have hother : ∀ (digest : String) (bytes : Bytes), digest.toList.head? ≠ some '-' →
      "-" ++ hexEncode bytes ≠ digest := by
    rintro digest bytes hdigest rfl
    apply hdigest
    rw [String.toList_append]
    rfl
  have hhex : Function.Injective (fun bytes => "-" ++ hexEncode bytes) :=
    fun bytes bytes' h => hexEncode_injective ((String.append_right_inj _).mp h)
  apply patched_injective
  · exact patched_injective hhex (fun bytes _ => hother _ bytes (by decide))
  · intro bytes _
    unfold patched
    split
    · decide
    · exact hother _ bytes (by decide)

theorem sampleHmac_injective (key : Bytes) : Function.Injective (sampleHmac key) := by
  have hpad : Function.Injective (fun message : Bytes => List.replicate 33 0 ++ message) :=
    fun message message' h => List.append_cancel_left h
  unfold sampleHmac
  split
  · exact hpad
  · rename_i entry hfind
    apply patched_injective hpad
    intro message _ heq
    have hmem := List.mem_of_find?_eq_some hfind
    have hlength : entry.2.2.length = 32 := by
      simp only [sampleCodes, List.mem_cons, List.not_mem_nil, or_false] at hmem
      rcases hmem with rfl | rfl | rfl | rfl | rfl <;> rfl
    rw [← heq, List.length_append, List.length_replicate] at hlength
    omega

def sampleAuthorization : HeaderText :=
  ⟨"AWS4-HMAC-SHA256 Credential=AKIDEXAMPLE/20240101/us-east-1/s3/aws4_request," ++
    "SignedHeaders=x-amz-date," ++
    "Signature=465ba3e4b0dca7f5c9c08c1d1ed54f6252a9792fbb9599e5875011270dbded8f",
    forall_mem_of_all (by decide +kernel)⟩

def sampleScope : CredentialScope := ⟨"AKIDEXAMPLE", "20240101", "us-east-1", "s3"⟩

def sampleSigned : Presented where
  scope := sampleScope
  signature := "465ba3e4b0dca7f5c9c08c1d1ed54f6252a9792fbb9599e5875011270dbded8f"
  signedHeaders := ["x-amz-date"]
  amzDate := "20240101T000000Z"
  payloadHash := "UNSIGNED-PAYLOAD"
  excludedKey := ""

/-- A GET of `/cat.png` that signs its date only. -/
def sampleGet (host : HeaderText) : S3Request where
  method := ⟨"GET", forall_mem_of_all (by decide)⟩
  path := ⟨"/cat.png", forall_mem_of_all (by decide)⟩
  query := none
  headers := [("host", some host), ("authorization", some sampleAuthorization),
    ("x-amz-date", some ⟨"20240101T000000Z", forall_mem_of_all (by decide)⟩),
    ("x-amz-content-sha256", some ⟨"UNSIGNED-PAYLOAD", forall_mem_of_all (by decide)⟩)]
  body := none

def sampleGetOf (bucket : String) : S3Operation :=
  ⟨"GET", some bucket, some "cat.png", none, none, none⟩

theorem sampleAuthorization_parsed : parseAuthorizationHeader sampleAuthorization.val =
    .ok ⟨sampleScope, ["x-amz-date"], sampleSigned.signature⟩ := by
  decide +kernel

theorem sampleGet_headers (host : HeaderText) :
    requiredHeader (sampleGet host) "Authorization" = .ok sampleAuthorization.val ∧
      requiredHeader (sampleGet host) "x-amz-date" = .ok "20240101T000000Z" ∧
      requiredHeader (sampleGet host) "x-amz-content-sha256" = .ok "UNSIGNED-PAYLOAD" := by
  have hauthorization : toAsciiLowercase "Authorization" = "authorization" := by decide
  have hdate : toAsciiLowercase "x-amz-date" = "x-amz-date" := by decide
  have hpayload : toAsciiLowercase "x-amz-content-sha256" = "x-amz-content-sha256" := by decide
  refine ⟨?_, ?_, ?_⟩ <;>
    simp [requiredHeader, S3Request.header, sampleGet, hauthorization, hdate, hpayload]

theorem sampleGet_presented (host : HeaderText) :
    presented sampleDataPlane (sampleGet host) = .ok sampleSigned := by
  obtain ⟨hauthorization, hdate, hpayload⟩ := sampleGet_headers host
  apply except_bind_ok.mpr
  refine ⟨false, rfl, ?_⟩
  rw [if_neg (by simp)]
  exact except_bind_ok.mpr ⟨_, hauthorization, except_bind_ok.mpr ⟨_, sampleAuthorization_parsed,
    except_bind_ok.mpr ⟨_, hdate, except_bind_ok.mpr ⟨_, hpayload, rfl⟩⟩⟩⟩

theorem sampleGet_verified (host : HeaderText) :
    verifyS3Signature sampleDataPlane (sampleGet host) (canonicalQueryString none) ["x-amz-date"]
      "UNSIGNED-PAYLOAD" "20240101T000000Z" sampleScope "s3cr3t-key" sampleSigned.signature =
        .ok () := by
  have hlowercase : toAsciiLowercase "x-amz-date" = "x-amz-date" := by decide
  have hline : canonicalHeader (sampleGet host) "x-amz-date" =
      .ok "x-amz-date:20240101T000000Z" := by
    have hvalue : (sampleGet host).header "x-amz-date" =
        some (some ⟨"20240101T000000Z", forall_mem_of_all (by decide)⟩) := by
      simp [S3Request.header, sampleGet, hlowercase]
    unfold canonicalHeader
    rw [hvalue]
    decide +kernel
  have hcanonical : canonicalRequest (sampleGet host) (canonicalQueryString none)
      ["x-amz-date:20240101T000000Z"] ["x-amz-date"] "UNSIGNED-PAYLOAD" =
        sampleCanonicalRequest := by
    unfold canonicalRequest
    show "GET" ++ "\n" ++ canonicalUri "/cat.png" ++ "\n" ++ _ ++ "\n" ++ _ = _
    decide +kernel
  apply except_bind_ok.mpr
  refine ⟨["x-amz-date:20240101T000000Z"], ?_, require_ok.mpr ?_⟩
  · unfold canonicalHeaders
    rw [List.mapM_cons, hline]
    rfl
  · rw [hcanonical]
    decide +kernel

theorem sampleGet_authorized (host : HeaderText) :
    authorizeS3 sampleDataPlane 1704067260 (sampleGet host) = .ok "gallery" := by
  obtain ⟨hauthorization, hdate, hpayload⟩ := sampleGet_headers host
  have hlowercase : toAsciiLowercase "Authorization" = "authorization" := by decide
  have hsome : ((sampleGet host).header "Authorization").isSome = true := by
    simp [S3Request.header, sampleGet, hlowercase]
  apply except_bind_ok.mpr
  refine ⟨false, rfl, ?_⟩
  apply except_bind_ok.mpr
  refine ⟨(), require_ok.mpr (by simp), ?_⟩
  rw [if_neg (by simp), if_neg (by simp [hsome])]
  refine except_bind_ok.mpr ⟨_, hauthorization, except_bind_ok.mpr
    ⟨_, sampleAuthorization_parsed, except_bind_ok.mpr ⟨("gallery", "s3cr3t-key"), ?_,
    except_bind_ok.mpr ⟨(), ?_, except_bind_ok.mpr ⟨_, hdate, except_bind_ok.mpr ⟨(), ?_,
    except_bind_ok.mpr ⟨_, hpayload, except_bind_ok.mpr ⟨(), ?_, except_bind_ok.mpr
    ⟨(), sampleGet_verified host, rfl⟩⟩⟩⟩⟩⟩⟩⟩⟩
  · decide +kernel
  · decide +kernel
  · decide +kernel
  · exact require_ok.mpr (Or.inl rfl)

theorem sampleGet_operation {host : HeaderText} {bucket : String}
    (h : bucketOfHost host.val = some bucket) :
    operation sampleRouter (sampleGet host) = some (.ok (sampleGetOf bucket)) := by
  have hlowercase : toAsciiLowercase "host" = "host" := by decide
  have hvirtual : bucketFromVirtualHost (sampleGet host) = some bucket := by
    rw [← h]
    simp [bucketFromVirtualHost, S3Request.headerStr, S3Request.header, sampleGet, hlowercase]
  have hpath : (sampleGet host).path.val = "/cat.png" := rfl
  have hroute : sampleRouter.route (sampleGet host).path.val = some (.segment "cat.png") := by
    rw [hpath]
    have hsegment : sampleRoute "/cat.png" = some (.segment "cat.png") := by decide +kernel
    exact hsegment
  have hextracted : queryExtractor sampleRouter ((sampleGet host).query.map Subtype.val) =
      some .default := by
    show queryExtractor sampleRouter none = _
    decide +kernel
  have hkey : trimStartMatches '/' (sampleGet host).path.val = "cat.png" := by
    rw [hpath]
    decide +kernel
  have hresolved : resolveBucketAndKeyForObjectPath (sampleGet host) bucket "cat.png" =
      .ok (bucket, "cat.png") := by
    unfold resolveBucketAndKeyForObjectPath
    rw [hvirtual]
    simp only [hkey]
    rfl
  unfold operation
  rw [hroute, hvirtual, hextracted]
  dsimp only
  rw [if_neg (by simp)]
  unfold objectOperation
  rw [hresolved]
  exact if_pos (Or.inl rfl)

def photosHost : HeaderText := ⟨"photos.localhost", forall_mem_of_all (by decide)⟩

/-- The same bucket, with a port and in capitals. -/
def photosHostAndPort : HeaderText := ⟨"PHOTOS.localhost:9000", forall_mem_of_all (by decide)⟩

def privateHost : HeaderText := ⟨"private.localhost", forall_mem_of_all (by decide)⟩

theorem signature_of_one_bucket :
    Agree sampleRouter ["x-amz-date"] (sampleGet photosHost) (sampleGet photosHostAndPort) := by
  have hop := @sampleGet_operation photosHost "photos" (by decide +kernel)
  have hop' := @sampleGet_operation photosHostAndPort "photos" (by decide +kernel)
  exact (@signature_covers_effect_iff sampleDataPlane sampleSha256Hex_injective
    sampleHmac_injective _ _ _ _ _ _ _ _ _ _ (sampleGet_authorized photosHost)
    (sampleGet_authorized photosHostAndPort) (sampleGet_presented photosHost) (sampleGet_presented photosHostAndPort) rfl rfl hop hop').mp
      ⟨rfl, fun _ => rfl⟩

/-- **One signature reads two buckets**, if it does not cover the host. -/
theorem signature_of_two_buckets :
    Function.Injective sampleDataPlane.sha256Hex ∧
      (∀ key, Function.Injective (sampleDataPlane.hmacSha256 key)) ∧
      authorizeS3 sampleDataPlane 1704067260 (sampleGet photosHost) = .ok "gallery" ∧
      authorizeS3 sampleDataPlane 1704067260 (sampleGet privateHost) = .ok "gallery" ∧
      presented sampleDataPlane (sampleGet photosHost) = .ok sampleSigned ∧
      presented sampleDataPlane (sampleGet privateHost) = .ok sampleSigned ∧
      operation sampleRouter (sampleGet photosHost) = some (.ok (sampleGetOf "photos")) ∧
      operation sampleRouter (sampleGet privateHost) = some (.ok (sampleGetOf "private")) ∧
      sampleGetOf "photos" ≠ sampleGetOf "private" :=
  ⟨sampleSha256Hex_injective, sampleHmac_injective, sampleGet_authorized photosHost,
    sampleGet_authorized privateHost, sampleGet_presented photosHost,
    sampleGet_presented privateHost, sampleGet_operation (by decide +kernel),
    sampleGet_operation (by decide +kernel), by decide⟩

end Sample

end Effect

end Netdisk2Blob.Gateway
