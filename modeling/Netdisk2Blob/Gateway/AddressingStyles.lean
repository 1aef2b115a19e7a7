import Netdisk2Blob.Gateway.SignatureCoverage
import Netdisk2Blob.Library.UrlPaths

/-!
# Addressing Styles

One request, addressed to the bucket by its path or by its host. The router decodes what it
takes out of a path; the handlers read the key of a virtual host, and its list query, from the
raw text.

## Contents

- `ClientRequest`, `pathStyle`, `virtualStyle`: the two requests of a client
- `Documented`: what the router promises
- `HostNames`, `bucketFromVirtualHost_virtual`: the buckets that a host can name
- `actsOn_both_iff`, `sameList_iff`, `parseCopySourceHeader_iff`: when the two styles, and a
  copy source, mean the same
- `dataPlaneRouter`: a router that keeps the promises
- `addressing_styles_iff`
-/

namespace Netdisk2Blob.Gateway.AddressingStyles

open Library Text Library.UrlPaths Blob

/-! ## Section 1: The requests of a client -/

/-- Where the gateway listens, as a client writes it into `Host`. -/
structure Endpoint where
  name : String
  port : Option String
  name_local : name = "localhost" ∨ name = "127.0.0.1"
  port_digits : ∀ digits ∈ port, ∀ c ∈ digits.toList, c.isDigit = true
  port_number : ∀ digits ∈ port, ∃ number, parseUnsigned 65535 digits = some number ∧ 0 < number

def Endpoint.authority (endpoint : Endpoint) : String :=
  endpoint.name ++ (endpoint.port.map (fun digits => ":" ++ digits)).getD ""

/-- A bucket, and the segment of a path that stands for it. -/
structure BucketName where
  bucket : String
  text : UriText
  ne_empty : text.val ≠ ""
  segment : '/' ∉ text.val.toList
  decoded : percentDecode text.val = some bucket

/-- A key, and the rest of a path that stands for it. -/
structure KeyName where
  key : String
  text : UriText
  ne_empty : text.val ≠ ""
  decoded : percentDecode text.val = some key

/-- What a request is without its path and its host. -/
structure ClientRequest where
  method : UriText
  query : Option UriText
  headers : List (String × Option HeaderText)
  body : Option Bytes
  no_host : ∀ header ∈ headers, header.1 ≠ "host"

/-- A header value; there is none that `to_str` accepts when a character is not visible ASCII. -/
def headerValue (text : String) : Option HeaderText :=
  if h : text.toList.all (fun c => decide (c = '\t' ∨ 32 ≤ c.toNat ∧ c.toNat < 127)) = true then
    some ⟨text, forall_mem_of_all h⟩
  else none

theorem headerValue_of {text : String}
    (h : ∀ c ∈ text.toList, c = '\t' ∨ 32 ≤ c.toNat ∧ c.toNat < 127) :
    headerValue text = some ⟨text, h⟩ :=
  dif_pos (List.all_eq_true.mpr (fun c hc => decide_eq_true (h c hc)))

theorem headerValue_of_not {text : String}
    (h : ¬ ∀ c ∈ text.toList, c = '\t' ∨ 32 ≤ c.toNat ∧ c.toNat < 127) :
    headerValue text = none := dif_neg (fun hall => h (forall_mem_of_all hall))

def ClientRequest.send (request : ClientRequest) (host : String) (path : UriText) : S3Request where
  method := request.method
  path := path
  query := request.query
  headers := ("host", headerValue host) :: request.headers
  body := request.body

/-- The text after a slash. -/
def rooted (text : UriText) : UriText :=
  ⟨"/" ++ text.val, by
    intro c hc
    rw [String.toList_append, List.mem_append] at hc
    rcases hc with hc | hc
    · rw [List.mem_singleton.mp hc]
      decide
    · exact text.property c hc⟩

/-- Two texts one after the other. -/
def joined (first rest : UriText) : UriText :=
  ⟨first.val ++ rest.val, by
    intro c hc
    rw [String.toList_append, List.mem_append] at hc
    rcases hc with hc | hc
    · exact first.property c hc
    · exact rest.property c hc⟩

def emptyText : UriText := ⟨"", by intro c hc; cases hc⟩

section Styles

variable (endpoint : Endpoint) (request : ClientRequest) (bucket : BucketName) (key : KeyName)

/-- The host of a bucket. -/
def virtualHost : String := bucket.bucket ++ "." ++ endpoint.authority

def pathStyle : S3Request :=
  request.send endpoint.authority (joined (rooted bucket.text) (rooted key.text))

def virtualStyle : S3Request :=
  request.send (virtualHost endpoint bucket) (rooted key.text)

/-- The same without a key. -/
def pathStyleBucket : S3Request := request.send endpoint.authority (rooted bucket.text)

def virtualStyleBucket : S3Request :=
  request.send (virtualHost endpoint bucket) (rooted emptyText)

end Styles

/-! ## Section 2: The router -/

/-- The paths that are not the data plane's. -/
def ownPaths : List String :=
  ["/__ccbg", "/__ccbg/providers", "/__ccbg/replication", "/healthz", "/v1/containers",
    "/v1/objects"]

/-- What the router crate documents about `/{bucket}` and `/{bucket}/{*key}`: a parameter stands
for a segment that is not empty, the rest for at least one character, fixed paths come first,
and what a handler gets is percent-decoded. -/
structure Documented (router : S3Router) : Prop where
  decode : ∀ text, router.percentDecodeUtf8 text = percentDecode text
  own : ∀ path ∈ ownPaths, router.route path = none
  root : router.route "/" = some .root
  segment : ∀ text : String, text ≠ "" → '/' ∉ text.toList → "/" ++ text ∉ ownPaths →
    router.route ("/" ++ text) = (percentDecode text).map .segment
  object : ∀ first rest : String, first ≠ "" → '/' ∉ first.toList → rest ≠ "" →
    "/" ++ (first ++ "/" ++ rest) ∉ ownPaths →
    router.route ("/" ++ (first ++ "/" ++ rest)) =
      (percentDecode first).bind (fun bucket => (percentDecode rest).map (.object bucket))
  folder : ∀ first : String, first ≠ "" → '/' ∉ first.toList →
    router.route ("/" ++ (first ++ "/")) = none
  empty_segment : ∀ rest, router.route ("/" ++ ("/" ++ rest)) = none

/-! ## Section 3: Hosts -/

/-- The host of a bucket names the bucket. -/
structure HostNames (endpoint : Endpoint) (bucket : String) : Prop where
  visible : ∀ c ∈ bucket.toList, c = '\t' ∨ 32 ≤ c.toNat ∧ c.toNat < 127
  nonempty : bucket ≠ ""
  no_blank : ∀ c ∈ bucket.toList.head?, isWhitespace c = false
  lowercase : ∀ c ∈ bucket.toList, c.toLower = c
  no_dot : '.' ∉ bucket.toList
  no_colon : endpoint.port = none → ':' ∉ bucket.toList

/-- What is left of a bucket in the host, where blanks in front and capital letters get lost. -/
def hostText (bucket : String) : String :=
  String.ofList ((bucket.toList.dropWhile isWhitespace).map Char.toLower)

theorem hostText_eq_self {bucket : String} :
    hostText bucket = bucket ↔ (∀ c ∈ bucket.toList.head?, isWhitespace c = false) ∧
      ∀ c ∈ bucket.toList, c.toLower = c := by
  have hlist : hostText bucket = bucket ↔
      (bucket.toList.dropWhile isWhitespace).map Char.toLower = bucket.toList := by
    rw [← String.toList_inj, hostText, String.toList_ofList]
  rw [hlist]
  generalize bucket.toList = l
  constructor
  · intro h
    have hdrop : l.dropWhile isWhitespace = l := by
      apply (List.dropWhile_sublist isWhitespace).eq_of_length
      have hlength := congrArg List.length h
      rwa [List.length_map] at hlength
    rw [hdrop] at h
    constructor
    · intro c hc
      cases l with
      | nil => cases hc
      | cons head tail =>
        cases hc
        rw [List.dropWhile_cons] at hdrop
        split at hdrop
        · have hlength := congrArg List.length hdrop
          have hle := (List.dropWhile_sublist isWhitespace (l := tail)).length_le
          rw [List.length_cons] at hlength
          omega
        · rename_i hblank
          simpa using hblank
    · intro c hc
      exact List.map_inj_left.mp (h.trans (List.map_id l).symm) c hc
  · rintro ⟨hhead, hlower⟩
    have hdrop : l.dropWhile isWhitespace = l := by
      cases l with
      | nil => rfl
      | cons head tail =>
        rw [List.dropWhile_cons, hhead head rfl]
        rfl
    rw [hdrop]
    exact (List.map_congr_left hlower).trans (List.map_id l)

section Host

variable {endpoint : Endpoint} {bucket : String}

theorem Endpoint.authority_chars (endpoint : Endpoint) :
    ∀ c ∈ endpoint.authority.toList, isWhitespace c = false ∧ c.toLower = c ∧
      (32 ≤ c.toNat ∧ c.toNat < 127) := by
  have hname : ∀ c ∈ endpoint.name.toList, isWhitespace c = false ∧ c.toLower = c ∧
      (32 ≤ c.toNat ∧ c.toNat < 127) := by
    rcases endpoint.name_local with h | h <;> rw [h] <;> exact forall_mem_of_all (by decide)
  intro c hc
  rw [Endpoint.authority, String.toList_append, List.mem_append] at hc
  rcases hc with hc | hc
  · exact hname c hc
  · cases hport : endpoint.port with
    | none =>
      rw [hport] at hc
      cases hc
    | some digits =>
      rw [hport] at hc
      change c ∈ (":" ++ digits).toList at hc
      rw [String.toList_append, List.mem_append] at hc
      rcases hc with hc | hc
      · rw [List.mem_singleton.mp hc]
        decide
      · have hdigit := endpoint.port_digits digits hport c hc
        have hrange : 48 ≤ c.toNat ∧ c.toNat ≤ 57 := by
          simpa [Char.isDigit, Char.le_def, UInt32.le_iff_toNat_le] using hdigit
        refine ⟨?_, toLower_eq_self (by omega), by omega, by omega⟩
        simp only [isWhitespace, Bool.or_eq_false_iff, Bool.and_eq_false_iff, decide_eq_false_iff_not,
          beq_eq_false_iff_ne]
        omega

theorem Endpoint.authority_ne_nil (endpoint : Endpoint) : endpoint.authority.toList ≠ [] := by
  rw [Endpoint.authority, String.toList_append]
  rcases endpoint.name_local with h | h <;> rw [h] <;> exact List.cons_ne_nil _ _

/-- Trimming and lowering the host changes only the part before the dot. -/
theorem lowered_virtualHost :
    toAsciiLowercase (trim (bucket ++ "." ++ endpoint.authority)) =
      hostText bucket ++ "." ++ endpoint.authority := by
  have hchars := endpoint.authority_chars
  have hne := endpoint.authority_ne_nil
  have hlist : (bucket ++ "." ++ endpoint.authority).toList =
      bucket.toList ++ '.' :: endpoint.authority.toList := by simp
  have hfront : (bucket.toList ++ '.' :: endpoint.authority.toList).dropWhile isWhitespace =
      bucket.toList.dropWhile isWhitespace ++ '.' :: endpoint.authority.toList := by
    have hdot : ('.' :: endpoint.authority.toList).dropWhile isWhitespace =
        '.' :: endpoint.authority.toList := rfl
    rw [List.dropWhile_append, hdot]
    split
    · rename_i hempty
      rw [List.isEmpty_iff.mp hempty]
      rfl
    · rfl
  have hback : trimList isWhitespace (bucket.toList ++ '.' :: endpoint.authority.toList) =
      bucket.toList.dropWhile isWhitespace ++ '.' :: endpoint.authority.toList := by
    rw [trimList, hfront]
    apply List.rdropWhile_eq_self_iff.mpr
    intro hl
    rw [List.getLast_append_of_ne_nil _ (List.cons_ne_nil _ _), List.getLast_cons hne]
    simp [(hchars _ (List.getLast_mem hne)).1]
  have hlower : endpoint.authority.toList.map Char.toLower = endpoint.authority.toList :=
    (List.map_congr_left (fun c hc => (hchars c hc).2.1)).trans (List.map_id _)
  rw [← String.toList_inj, toAsciiLowercase, trim, String.toList_ofList, String.toList_ofList,
    hlist, hback, List.map_append, List.map_cons, hlower, String.toList_append,
    String.toList_append, hostText, String.toList_ofList, List.append_assoc]
  rfl

/-- A text with another character than a digit is no number. -/
theorem parseUnsigned_of_not_digit {max : Nat} {text : String} {c : Char} (h : c ∈ text.toList)
    (hplus : c ≠ '+') (hdigit : c.isDigit = false) : parseUnsigned max text = none := by
  have hmem : c ∈ ((stripPrefix "+" text).getD text).toList := by
    unfold stripPrefix
    split
    · rename_i hprefix
      obtain ⟨rest, hrest⟩ := List.isPrefixOf_iff_prefix.mp hprefix
      rw [← hrest] at h ⊢
      rcases List.mem_append.mp h with h | h
      · exact absurd (List.mem_singleton.mp h) hplus
      · simpa using h
    · exact h
  unfold parseUnsigned
  dsimp only
  rw [if_pos]
  refine Or.inr ?_
  intro hall
  rw [List.all_eq_true.mp hall c hmem] at hdigit
  cases hdigit

/-- A port is cut off; without one, a colon leaves no number behind it. -/
theorem stripHostPort_eq (text : String) :
    stripHostPort (text ++ endpoint.authority) =
      if endpoint.port = none ∧ ':' ∈ text.toList then none else some (text ++ endpoint.name) := by
  have hname : ':' ∉ endpoint.name.toList := by
    rcases endpoint.name_local with h | h <;> rw [h] <;> decide
  unfold stripHostPort Endpoint.authority
  cases hport : endpoint.port with
  | some digits =>
    obtain ⟨number, hnumber, hpos⟩ := endpoint.port_number digits hport
    have hcolon : ':' ∉ digits.toList := by
      intro hmem
      have hdigit := endpoint.port_digits digits hport ':' hmem
      revert hdigit
      decide
    have hne : digits ≠ "" := by
      rintro rfl
      have hnone : parseUnsigned 65535 "" = none := by decide
      rw [hnone] at hnumber
      cases hnumber
    have htext : text ++ (endpoint.name ++ ((some digits).map (fun digits =>
        ":" ++ digits)).getD "") =
        text ++ endpoint.name ++ String.singleton ':' ++ digits := by
      rw [← String.toList_inj]
      simp
    rw [htext, Text.rsplitOnce_append hcolon, Option.getD_some, if_neg (by rintro ⟨h, -⟩; cases h)]
    dsimp only
    rw [if_neg hne, hnumber, Option.filter_some, if_pos (decide_eq_true hpos)]
    rfl
  | none =>
    rw [Option.map_none, Option.getD_none, String.append_empty]
    by_cases hcolon : ':' ∈ text.toList
    · rw [if_pos ⟨rfl, hcolon⟩]
      obtain ⟨after, before, hsplit, hlast⟩ :=
        List.eq_append_cons_of_mem (List.mem_reverse.mpr hcolon)
      have htext : text ++ endpoint.name = String.ofList before.reverse ++
          String.singleton ':' ++ (String.ofList after.reverse ++ endpoint.name) := by
        have hlist := congrArg List.reverse hsplit
        rw [List.reverse_reverse, List.reverse_append, List.reverse_cons] at hlist
        rw [← String.toList_inj]
        simp [hlist]
      -- the local name stands behind the last colon
      have hnumber : parseUnsigned 65535 (String.ofList after.reverse ++ endpoint.name) = none := by
        rcases endpoint.name_local with h | h
        · exact parseUnsigned_of_not_digit (c := 'l') (by simp [h]) (by decide) (by decide)
        · exact parseUnsigned_of_not_digit (c := '.') (by simp [h]) (by decide) (by decide)
      have hne : String.ofList after.reverse ++ endpoint.name ≠ "" := by
        rw [← String.toList_inj.ne]
        rcases endpoint.name_local with h | h <;> simp [h]
      rw [htext, Text.rsplitOnce_append, Option.getD_some]
      · dsimp only
        rw [if_neg hne, hnumber]
        rfl
      · simpa using ⟨hlast, hname⟩
    · rw [if_neg (fun h => hcolon h.2)]
      have hnone : rsplitOnce ':' (text ++ endpoint.name) = none := by
        rw [rsplitOnce, if_neg]
        simpa using ⟨hcolon, hname⟩
      rw [hnone, Option.getD_none]
      rfl

/-- The last step of `bucket_from_virtual_host`. -/
theorem localBucket_eq {text : String} :
    ((splitOnce '.' (text ++ "." ++ endpoint.name)).bind (fun parts =>
      if parts.1 = "" ∨ '.' ∈ parts.1.toList then none
      else if parts.2 ≠ "localhost" ∧ parts.2 ≠ "127.0.0.1" then none
      else some parts.1)) =
      if text ≠ "" ∧ '.' ∉ text.toList then some text else none := by
  have hlength : endpoint.name.toList.length = 9 := by
    rcases endpoint.name_local with h | h <;> rw [h] <;> rfl
  have hlocal : ¬ (endpoint.name ≠ "localhost" ∧ endpoint.name ≠ "127.0.0.1") := by
    rintro ⟨hone, htwo⟩
    rcases endpoint.name_local with h | h
    · exact hone h
    · exact htwo h
  have hdotted : text ++ "." ++ endpoint.name = text ++ String.singleton '.' ++ endpoint.name := by
    rw [← String.toList_inj]
    simp
  by_cases hdot : '.' ∈ text.toList
  · -- the part behind the first dot is longer than a local name
    obtain ⟨before, after, hsplit, hfirst⟩ := List.eq_append_cons_of_mem hdot
    have htext : text ++ "." ++ endpoint.name = String.ofList before ++
        String.singleton '.' ++ (String.ofList after ++ "." ++ endpoint.name) := by
      rw [← String.toList_inj]
      simp [hsplit]
    have hlong : (String.ofList after ++ "." ++ endpoint.name).toList.length ≠ 9 := by
      simp [hlength]
    have hforeign : String.ofList after ++ "." ++ endpoint.name ≠ "localhost" ∧
        String.ofList after ++ "." ++ endpoint.name ≠ "127.0.0.1" := by
      constructor
      · intro heq
        rw [heq] at hlong
        exact hlong rfl
      · intro heq
        rw [heq] at hlong
        exact hlong rfl
    rw [if_neg (fun h => h.2 hdot), htext, splitOnce_append (by simpa using hfirst),
      Option.bind_some, if_pos hforeign, ite_self]
  · rw [hdotted, splitOnce_append hdot, Option.bind_some, if_neg hlocal]
    by_cases hempty : text = ""
    · rw [if_pos (Or.inl hempty), if_neg (fun h => h.1 hempty)]
    · rw [if_neg (not_or.mpr ⟨hempty, hdot⟩), if_pos ⟨hempty, hdot⟩]

/-- The bucket that the host names: what is left of the bucket before the dot, if it is one
label. -/
theorem bucketOfHost_eq :
    bucketOfHost (bucket ++ "." ++ endpoint.authority) =
      if hostText bucket ≠ "" ∧ '.' ∉ (hostText bucket).toList ∧
          (endpoint.port = none → ':' ∉ (hostText bucket).toList) then some (hostText bucket)
      else none := by
  have hdotted : ':' ∈ (hostText bucket ++ ".").toList ↔ ':' ∈ (hostText bucket).toList := by simp
  unfold bucketOfHost
  rw [lowered_virtualHost, stripHostPort_eq]
  by_cases hcolon : endpoint.port = none ∧ ':' ∈ (hostText bucket).toList
  · rw [if_pos ⟨hcolon.1, hdotted.mpr hcolon.2⟩, if_neg (fun h => h.2.2 hcolon.1 hcolon.2)]
    rfl
  · rw [if_neg (fun h => hcolon ⟨h.1, hdotted.mp h.2⟩)]
    have hport : endpoint.port = none → ':' ∉ (hostText bucket).toList :=
      fun hport hmem => hcolon ⟨hport, hmem⟩
    have hsame : (hostText bucket ≠ "" ∧ '.' ∉ (hostText bucket).toList ∧
        (endpoint.port = none → ':' ∉ (hostText bucket).toList)) ↔
          hostText bucket ≠ "" ∧ '.' ∉ (hostText bucket).toList :=
      ⟨fun h => ⟨h.1, h.2.1⟩, fun h => ⟨h.1, h.2, hport⟩⟩
    rw [if_congr hsame rfl rfl, ← @localBucket_eq endpoint (hostText bucket)]
    simp only [Option.bind_eq_bind, Option.bind_some]

/-- The host without a bucket names none. -/
theorem bucketOfHost_authority : bucketOfHost endpoint.authority = none := by
  have hchars := endpoint.authority_chars
  have htrim : trim endpoint.authority = endpoint.authority := by
    rw [← String.toList_inj, trim, String.toList_ofList]
    apply trimList_eq_self
    · intro hl
      simp [(hchars _ (List.getElem_mem hl)).1]
    · intro hl
      simp [(hchars _ (List.getLast_mem hl)).1]
  have hlower : toAsciiLowercase endpoint.authority = endpoint.authority := by
    rw [← String.toList_inj, toAsciiLowercase, String.toList_ofList]
    exact (List.map_congr_left (fun c hc => (hchars c hc).2.1)).trans (List.map_id _)
  have hport := @stripHostPort_eq endpoint ""
  rw [String.empty_append, String.empty_append, if_neg (by simp)] at hport
  unfold bucketOfHost
  rw [htrim, hlower, hport]
  rcases endpoint.name_local with h | h <;> rw [h] <;> decide

/-- The bucket of a request, from the host that it is sent to. -/
theorem bucketFromVirtualHost_send (request : ClientRequest) (host : String) (path : UriText) :
    bucketFromVirtualHost (request.send host path) =
      (headerValue host).bind (fun value => bucketOfHost value.val) := by
  have hlower : toAsciiLowercase "host" = "host" := by decide
  simp [bucketFromVirtualHost, S3Request.headerStr, S3Request.header, ClientRequest.send, hlower]

theorem bucketFromVirtualHost_authority (request : ClientRequest) (path : UriText) :
    bucketFromVirtualHost (request.send endpoint.authority path) = none := by
  have hvisible : ∀ c ∈ endpoint.authority.toList, c = '\t' ∨ 32 ≤ c.toNat ∧ c.toNat < 127 :=
    fun c hc => Or.inr (endpoint.authority_chars c hc).2.2
  rw [bucketFromVirtualHost_send, headerValue_of hvisible, Option.bind_some]
  exact bucketOfHost_authority

/-- **The buckets that a host names.** -/
theorem bucketFromVirtualHost_virtual (request : ClientRequest) (name : BucketName)
    (path : UriText) :
    bucketFromVirtualHost (request.send (virtualHost endpoint name) path) = some name.bucket ↔
      HostNames endpoint name.bucket := by
  have hvisible : (∀ c ∈ (virtualHost endpoint name).toList,
      c = '\t' ∨ 32 ≤ c.toNat ∧ c.toNat < 127) ↔
        ∀ c ∈ name.bucket.toList, c = '\t' ∨ 32 ≤ c.toNat ∧ c.toNat < 127 := by
    unfold virtualHost
    constructor
    · intro h c hc
      exact h c (by simp [hc])
    · intro h c hc
      rw [String.toList_append, String.toList_append, List.mem_append, List.mem_append] at hc
      rcases hc with (hc | hc) | hc
      · exact h c hc
      · rw [List.mem_singleton.mp hc]
        decide
      · exact Or.inr (endpoint.authority_chars c hc).2.2
  rw [bucketFromVirtualHost_send]
  by_cases h : ∀ c ∈ (virtualHost endpoint name).toList, c = '\t' ∨ 32 ≤ c.toNat ∧ c.toNat < 127
  · rw [headerValue_of h, Option.bind_some]
    dsimp only
    rw [virtualHost, bucketOfHost_eq]
    constructor
    · intro heq
      split at heq
      · rename_i hlabel
        have hself := Option.some.inj heq
        obtain ⟨hblank, hlower⟩ := hostText_eq_self.mp hself
        rw [hself] at hlabel
        exact ⟨hvisible.mp h, hlabel.1, hblank, hlower, hlabel.2.1, hlabel.2.2⟩
      · cases heq
    · intro hnames
      rw [hostText_eq_self.mpr ⟨hnames.no_blank, hnames.lowercase⟩, if_pos]
      exact ⟨hnames.nonempty, hnames.no_dot, hnames.no_colon⟩
  · rw [headerValue_of_not h]
    refine iff_of_false (by intro heq; cases heq) ?_
    exact fun hnames => h (hvisible.mpr hnames.visible)

end Host

/-! ## Section 4: Objects -/

/-- The request is about the object. -/
def ActsOn (router : S3Router) (request : S3Request) (bucket key : String) : Prop :=
  ∃ op, operation router request = some (.ok op) ∧ op.bucket = some bucket ∧ op.key = some key

/-- The key can be written into a path of its own: nothing in it is escaped, it begins with no
slash, it is no folder, and the path is not one of the gateway's own. A GET of a single segment
goes through the handler of lists, which reads the query first. -/
structure SameObject (router : S3Router) (endpoint : Endpoint) (request : ClientRequest)
    (bucket : BucketName) (key : KeyName) : Prop where
  host : HostNames endpoint bucket.bucket
  plain : key.text.val = key.key
  no_leading_slash : ∀ rest, key.key ≠ "/" ++ rest
  not_folder : ∀ name : String, '/' ∉ name.toList → key.key ≠ name ++ "/"
  not_own : "/" ++ key.key ∉ ownPaths
  accepted : request.method.val = "GET" → '/' ∉ key.key.toList →
    queryExtractor router (request.query.map Subtype.val) ≠ none

/-- A text is one segment, or begins with a slash, or has a first segment. -/
theorem segment_cases (text : String) :
    '/' ∉ text.toList ∨ (∃ rest, text = "/" ++ rest) ∨
      ∃ first rest : String, text = first ++ "/" ++ rest ∧ first ≠ "" ∧ '/' ∉ first.toList := by
  by_cases hslash : '/' ∈ text.toList
  · obtain ⟨before, after, hsplit, hfirst⟩ := List.eq_append_cons_of_mem hslash
    have htext : text = String.ofList before ++ "/" ++ String.ofList after := by
      rw [← String.toList_inj]
      simp [hsplit]
    cases before with
    | nil => exact Or.inr (Or.inl ⟨String.ofList after, htext⟩)
    | cons c before =>
      refine Or.inr (Or.inr ⟨_, _, htext, ?_, by simpa using hfirst⟩)
      rw [← String.toList_inj.ne, String.toList_ofList]
      exact List.cons_ne_nil _ _
  · exact Or.inl hslash

theorem segment_ne_slash {first : String} (hne : first ≠ "") (hslash : '/' ∉ first.toList)
    (tail rest : String) : first ++ "/" ++ tail ≠ "/" ++ rest := by
  intro heq
  have hlist := congrArg String.toList heq
  rw [String.toList_append, String.toList_append, String.toList_append] at hlist
  cases hchars : first.toList with
  | nil => exact hne (String.toList_eq_nil_iff.mp hchars)
  | cons c cs =>
    rw [hchars] at hlist hslash
    have hc : c = '/' := (List.cons.inj hlist).1
    exact hslash (hc ▸ List.mem_cons_self)

theorem trimStartMatches_slash (text : String) :
    trimStartMatches '/' ("/" ++ text) = trimStartMatches '/' text := by
  rw [← String.toList_inj, trimStartMatches, trimStartMatches, String.toList_ofList,
    String.toList_ofList, String.toList_append]
  rfl

theorem trimStartMatches_eq_self {text : String} (h : ∀ rest, text ≠ "/" ++ rest) :
    trimStartMatches '/' text = text := by
  rw [← String.toList_inj, trimStartMatches, String.toList_ofList]
  cases htext : text.toList with
  | nil => rfl
  | cons c tail =>
    rw [List.dropWhile_cons_of_neg]
    intro hc
    apply h (String.ofList tail)
    rw [← String.toList_inj, htext, of_decide_eq_true hc]
    simp

theorem trimStartMatches_ne_slash (text rest : String) :
    trimStartMatches '/' text ≠ "/" ++ rest := by
  intro heq
  have hlist := congrArg String.toList heq
  rw [trimStartMatches, String.toList_ofList, String.toList_append] at hlist
  have hne : text.toList.dropWhile (fun a => decide (a = '/')) ≠ [] := by
    rw [hlist]
    exact List.cons_ne_nil _ _
  have hhead := List.head_dropWhile_not (fun a => decide (a = '/')) hne
  have hslash : (text.toList.dropWhile (fun a => decide (a = '/'))).head hne = '/' := by
    simp [hlist]
  rw [hslash] at hhead
  cases hhead

section Objects

variable {router : S3Router} {endpoint : Endpoint} {request : ClientRequest}
  {bucket : BucketName} {key : KeyName}

/-- The headers beside the host do not depend on where a request is sent. -/
theorem header_send {name : String} (hname : toAsciiLowercase name ≠ "host")
    (host : String) (path : UriText) (host' : String) (path' : UriText) :
    (request.send host path).header name = (request.send host' path').header name := by
  have hhost : ("host" = toAsciiLowercase name) ↔ False := iff_false_intro (Ne.symm hname)
  simp [S3Request.header, ClientRequest.send, hhost]

/-- What an object handler does depends on the path and the host only through the object. -/
theorem objectOperation_send {host host' : String} {path path' : UriText}
    {pathBucket pathKey pathBucket' pathKey' : String}
    (h : resolveBucketAndKeyForObjectPath (request.send host path) pathBucket pathKey =
      resolveBucketAndKeyForObjectPath (request.send host' path') pathBucket' pathKey') :
    objectOperation router (request.send host path) pathBucket pathKey =
      objectOperation router (request.send host' path') pathBucket' pathKey' := by
  have hcopy := @header_send request "x-amz-copy-source" (by decide) host path host' path'
  unfold objectOperation copySourceOf
  rw [h, hcopy]
  rfl

theorem resolve_pathStyle (path : UriText) (pathBucket pathKey : String) :
    resolveBucketAndKeyForObjectPath (request.send endpoint.authority path) pathBucket pathKey =
      .ok (pathBucket, pathKey) := by
  unfold resolveBucketAndKeyForObjectPath
  rw [bucketFromVirtualHost_authority]

theorem resolve_virtualStyle (hhost : HostNames endpoint bucket.bucket)
    (hplain : key.text.val = key.key) (hslash : ∀ rest, key.key ≠ "/" ++ rest)
    (pathBucket pathKey : String) :
    resolveBucketAndKeyForObjectPath (virtualStyle endpoint request bucket key) pathBucket
        pathKey = .ok (bucket.bucket, key.key) := by
  have htrim : trimStartMatches '/' (virtualStyle endpoint request bucket key).path.val =
      key.key := by
    change trimStartMatches '/' ("/" ++ key.text.val) = _
    rw [trimStartMatches_slash, hplain, trimStartMatches_eq_self hslash]
  have hne : key.key ≠ "" := percentDecode_ne_empty key.decoded key.ne_empty
  have hvirtual : bucketFromVirtualHost (virtualStyle endpoint request bucket key) =
      some bucket.bucket := (bucketFromVirtualHost_virtual request bucket _).mpr hhost
  unfold resolveBucketAndKeyForObjectPath
  rw [hvirtual, htrim]
  dsimp only
  rw [if_neg hne]

/-- The path of an object is the data plane's when its request is about the object. -/
theorem operation_pathStyle (h : Documented router)
    (hacts : ActsOn router (pathStyle endpoint request bucket key) bucket.bucket key.key) :
    operation router (pathStyle endpoint request bucket key) =
      objectOperation router (pathStyle endpoint request bucket key) bucket.bucket key.key := by
  have hpath : (pathStyle endpoint request bucket key).path.val =
      "/" ++ (bucket.text.val ++ "/" ++ key.text.val) := by
    change ("/" ++ bucket.text.val) ++ ("/" ++ key.text.val) = _
    rw [← String.toList_inj]
    simp
  obtain ⟨op, hop, -⟩ := hacts
  have hown : "/" ++ (bucket.text.val ++ "/" ++ key.text.val) ∉ ownPaths := by
    intro hmem
    unfold operation at hop
    rw [hpath, h.own _ hmem] at hop
    cases hop
  have hroute := h.object _ _ bucket.ne_empty bucket.segment key.ne_empty hown
  rw [bucket.decoded, key.decoded] at hroute
  unfold operation
  rw [hpath, hroute]
  rfl

/-- Where the styles mean the same object, they ask for the same operation. -/
theorem operation_virtualStyle (h : Documented router)
    (hacts : ActsOn router (pathStyle endpoint request bucket key) bucket.bucket key.key)
    (hsame : SameObject router endpoint request bucket key) :
    operation router (virtualStyle endpoint request bucket key) =
      operation router (pathStyle endpoint request bucket key) := by
  have hvirtual : bucketFromVirtualHost (virtualStyle endpoint request bucket key) =
      some bucket.bucket := (bucketFromVirtualHost_virtual request bucket _).mpr hsame.host
  have hpath : (virtualStyle endpoint request bucket key).path.val = "/" ++ key.key := by
    change "/" ++ key.text.val = _
    rw [hsame.plain]
  have hne : key.key ≠ "" := percentDecode_ne_empty key.decoded key.ne_empty
  have hself : percentDecode key.key = some key.key := by
    rw [← key.decoded, hsame.plain]
  have hobject : ∀ pathBucket pathKey,
      objectOperation router (virtualStyle endpoint request bucket key) pathBucket pathKey =
        objectOperation router (pathStyle endpoint request bucket key) bucket.bucket key.key := by
    intro pathBucket pathKey
    apply objectOperation_send
    rw [resolve_pathStyle]
    exact resolve_virtualStyle hsame.host hsame.plain hsame.no_leading_slash pathBucket pathKey
  rw [operation_pathStyle h hacts]
  unfold operation
  rw [hpath, hvirtual]
  rcases segment_cases key.key with hsegment | ⟨rest, hrest⟩ | ⟨first, rest, hrest, hfirst, hslash⟩
  · rw [h.segment key.key hne hsegment hsame.not_own, hself, Option.map_some]
    dsimp only
    rw [if_neg (fun hget => hsame.accepted hget.1 hsegment hget.2)]
    exact hobject _ _
  · exact absurd hrest (hsame.no_leading_slash rest)
  · have hrestNe : rest ≠ "" := by
      rintro rfl
      exact hsame.not_folder first hslash (by rw [hrest, String.append_empty])
    rw [hrest] at hself
    obtain ⟨hone, htwo⟩ := percentDecode_parts hself
    have hroute := h.object first rest hfirst hslash hrestNe (hrest ▸ hsame.not_own)
    rw [hone, htwo, ← hrest] at hroute
    rw [hroute]
    exact hobject _ _

/-- A virtual host gives the handlers the raw text of the path. -/
theorem sameObject_of_actsOn (h : Documented router)
    (hacts : ActsOn router (virtualStyle endpoint request bucket key) bucket.bucket key.key) :
    SameObject router endpoint request bucket key := by
  obtain ⟨op, hop, hbucket, hkey⟩ := hacts
  have hread := operation_ok hop
  have htarget := hread.target
  have hpath : (virtualStyle endpoint request bucket key).path.val = "/" ++ key.text.val := rfl
  rw [hbucket, hkey, hpath] at htarget
  have hroute : router.route ("/" ++ key.text.val) ≠ none := hread.path
  cases hvirtual : bucketFromVirtualHost (virtualStyle endpoint request bucket key) with
  | none =>
    -- the path stands for an object of its own, whose key is a part of this one
    rw [hvirtual] at htarget
    exfalso
    obtain ⟨pathBucket, hobject⟩ : ∃ pathBucket,
        router.route ("/" ++ key.text.val) = some (.object pathBucket key.key) := by
      cases hkind : router.route ("/" ++ key.text.val) with
      | none => exact absurd hkind hroute
      | some kind =>
        rw [hkind] at htarget
        cases kind with
        | root => cases htarget
        | segment segment => cases htarget
        | object pathBucket pathKey =>
          cases htarget
          exact ⟨_, rfl⟩
    have hown : "/" ++ key.text.val ∉ ownPaths := fun hmem => hroute (h.own _ hmem)
    rcases segment_cases key.text.val with hsegment | ⟨rest, hrest⟩ |
      ⟨first, rest, hrest, hfirst, hslash⟩
    · rw [h.segment _ key.ne_empty hsegment hown, key.decoded] at hobject
      cases hobject
    · rw [hrest, h.empty_segment] at hobject
      cases hobject
    · rcases eq_or_ne rest "" with rfl | hne
      · rw [hrest, String.append_empty, h.folder first hfirst hslash] at hobject
        cases hobject
      · rw [hrest] at hown
        rw [hrest, h.object first rest hfirst hslash hne hown] at hobject
        obtain ⟨first', hone, hmap⟩ := Option.bind_eq_some_iff.mp hobject
        obtain ⟨rest', htwo, heq⟩ := Option.map_eq_some_iff.mp hmap
        have hdecoded := key.decoded
        rw [hrest, percentDecode_append_slash hone htwo] at hdecoded
        have hkeys : first' ++ "/" ++ rest' = rest' :=
          (Option.some.inj hdecoded).trans (S3Path.object.inj heq).2.symm
        have hlength := congrArg (fun s : String => s.toList.length) hkeys
        simp at hlength
        omega
  | some virtualBucket =>
    have htext : virtualBucket = bucket.bucket ∧
        key.key = trimStartMatches '/' key.text.val := by
      rw [hvirtual] at htarget
      cases hkind : router.route ("/" ++ key.text.val) with
      | none => exact absurd hkind hroute
      | some kind =>
        rw [hkind] at htarget
        cases kind with
        | root => cases htarget
        | segment segment =>
          obtain ⟨hone, htwo⟩ := Prod.mk.inj htarget
          rw [trimStartMatches_slash] at htwo
          exact ⟨(Option.some.inj hone).symm, Option.some.inj htwo⟩
        | object pathBucket pathKey =>
          obtain ⟨hone, htwo⟩ := Prod.mk.inj htarget
          rw [trimStartMatches_slash] at htwo
          exact ⟨(Option.some.inj hone).symm, Option.some.inj htwo⟩
    obtain ⟨rfl, htrim⟩ := htext
    have hslash : ∀ rest, key.text.val ≠ "/" ++ rest := by
      intro rest hrest
      have hdecoded := key.decoded
      rw [hrest] at hdecoded
      obtain ⟨text', htext'⟩ := percentDecode_slash hdecoded
      exact trimStartMatches_ne_slash _ text' (htrim.symm.trans htext')
    rw [trimStartMatches_eq_self hslash] at htrim
    rw [← htrim] at hslash hroute
    refine ⟨(bucketFromVirtualHost_virtual request bucket _).mp hvirtual, htrim.symm, hslash, ?_,
      fun hmem => hroute (h.own _ hmem), ?_⟩
    · rintro name hname hfolder
      rcases eq_or_ne name "" with rfl | hne
      · exact hslash "" hfolder
      · exact hroute (hfolder ▸ h.folder name hne hname)
    · intro hget hsegment hrejected
      have hown : "/" ++ key.key ∉ ownPaths := fun hmem => hroute (h.own _ hmem)
      have hne : key.key ≠ "" := percentDecode_ne_empty key.decoded key.ne_empty
      have hsegmentRoute := h.segment key.key hne hsegment hown
      have hself : percentDecode key.key = some key.key := by
        rw [← key.decoded, htrim]
      rw [hself] at hsegmentRoute
      unfold operation at hop
      rw [hpath, ← htrim, hsegmentRoute, hvirtual] at hop
      dsimp only [Option.map_some] at hop
      rw [if_pos ⟨hget, hrejected⟩] at hop
      cases hop

/-- The handlers of objects accept the request: its method, its query and its copy source. -/
def HandlersAccept (router : S3Router) (endpoint : Endpoint) (request : ClientRequest)
    (bucket : BucketName) (key : KeyName) : Prop :=
  ∃ op, objectOperation router (pathStyle endpoint request bucket key) bucket.bucket key.key =
    some (.ok op)

/-- A path of a bucket and a key is about the object, unless it is one of the gateway's own. -/
theorem actsOn_pathStyle_iff (h : Documented router)
    (haccept : HandlersAccept router endpoint request bucket key) :
    ActsOn router (pathStyle endpoint request bucket key) bucket.bucket key.key ↔
      (pathStyle endpoint request bucket key).path.val ∉ ownPaths := by
  obtain ⟨op, hop⟩ := haccept
  have hpath : (pathStyle endpoint request bucket key).path.val =
      "/" ++ (bucket.text.val ++ "/" ++ key.text.val) := by
    change ("/" ++ bucket.text.val) ++ ("/" ++ key.text.val) = _
    rw [← String.toList_inj]
    simp
  constructor
  · rintro ⟨op, hop, -⟩ hmem
    exact (operation_ok hop).path (h.own _ hmem)
  · intro hown
    have hroute := h.object _ _ bucket.ne_empty bucket.segment key.ne_empty (hpath ▸ hown)
    rw [bucket.decoded, key.decoded] at hroute
    obtain ⟨bucket', key', hresolved, -, hbucket, hkey, -⟩ := objectOperation_ok hop
    have hpair := Except.ok.inj (hresolved.symm.trans (resolve_pathStyle _ _ _))
    obtain ⟨rfl, rfl⟩ := Prod.mk.inj hpair
    refine ⟨op, ?_, hbucket, hkey⟩
    unfold operation
    rw [hpath, hroute]
    exact hop

/-- **When the two styles act on the same object.** -/
theorem actsOn_both_iff (h : Documented router)
    (haccept : HandlersAccept router endpoint request bucket key) :
    (ActsOn router (pathStyle endpoint request bucket key) bucket.bucket key.key ∧
      ActsOn router (virtualStyle endpoint request bucket key) bucket.bucket key.key) ↔
      (pathStyle endpoint request bucket key).path.val ∉ ownPaths ∧
        SameObject router endpoint request bucket key := by
  rw [← actsOn_pathStyle_iff h haccept]
  refine and_congr_right (fun hacts => ⟨sameObject_of_actsOn h, fun hsame => ?_⟩)
  have heq := operation_virtualStyle h hacts hsame
  obtain ⟨op, hop, htarget⟩ := hacts
  exact ⟨op, heq.trans hop, htarget⟩

theorem objectOperation_get {s3Request : S3Request} {pathBucket pathKey bucket key : String}
    (hget : s3Request.method.val = "GET")
    (h : resolveBucketAndKeyForObjectPath s3Request pathBucket pathKey = .ok (bucket, key)) :
    objectOperation router s3Request pathBucket pathKey =
      some (.ok ⟨"GET", some bucket, some key, none, none, none⟩) := by
  unfold objectOperation
  dsimp only
  rw [if_pos (Or.inl hget), h, hget]
  rfl

theorem handlersAccept_get (hget : request.method.val = "GET") :
    HandlersAccept router endpoint request bucket key :=
  ⟨_, objectOperation_get hget (resolve_pathStyle _ _ _)⟩

end Objects

/-! ## Section 5: Lists -/

/-- The parameters of the query. -/
def ClientRequest.pairs (request : ClientRequest) : List (String × String) :=
  queryPairs ((request.query.map Subtype.val).getD "")

/-- What is written for a field is read as it is written. -/
def PlainField {β : Type} (router : S3Router) (request : ClientRequest) (name : String)
    (read : String → Option β) : Prop :=
  ∀ pair ∈ request.pairs, router.formDecode pair.1 = name →
    pair.1 = name ∧ read pair.2 = read (router.formDecode pair.2)

/-- The fields of a list are written plainly. -/
structure PlainListQuery (router : S3Router) (request : ClientRequest) : Prop where
  listType : PlainField router request "list-type" some
  prefixText : PlainField router request "prefix" some
  maxKeys : PlainField router request "max-keys" (parseUnsigned usizeMax)
  continuationToken : PlainField router request "continuation-token" some
  startAfter : PlainField router request "start-after" some
  delimiter : PlainField router request "delimiter" some

section Lists

variable {router : S3Router} {endpoint : Endpoint} {request : ClientRequest}
  {bucket : BucketName}

/-- One field of a list: what the last raw value gives, beside what the extractor has read. -/
theorem plainField_iff {β : Type} {name : String} {read : String → Option β}
    {value : Option String} (hplus : '+' ∉ name.toList) (hpercent : '%' ∉ name.toList)
    (hvalue : fieldValue name (request.pairs.map
      (fun pair => (router.formDecode pair.1, router.formDecode pair.2))) = some value)
    (hread : ∀ text ∈ value, read text ≠ none) :
    request.pairs.reverse.findSome? (readNamed name read) = value.bind read ↔
      PlainField router request name read := by
  have hname : router.formDecode name = name := router.formDecode_plain name hplus hpercent
  -- a raw name of the field is one of its names
  have hkeep : request.pairs.reverse.findSome? (readNamed name read) =
      (request.pairs.filter
        (fun pair => decide (router.formDecode pair.1 = name))).reverse.findSome?
          (readNamed name read) := by
    rw [← List.filter_reverse, findSome?_filter]
    intro pair hother
    refine if_neg (fun hpair => ?_)
    rw [hpair, hname] at hother
    exact absurd rfl (of_decide_eq_false hother)
  have hmem : PlainField router request name read ↔
      ∀ pair ∈ request.pairs.filter (fun pair => decide (router.formDecode pair.1 = name)),
        pair.1 = name ∧ read pair.2 = read (router.formDecode pair.2) := by
    unfold PlainField
    simp only [List.mem_filter, decide_eq_true_eq, and_imp]
  have hdecoded : (request.pairs.map
      (fun pair => (router.formDecode pair.1, router.formDecode pair.2))).filter
        (fun pair => decide (pair.1 = name)) =
      (request.pairs.filter (fun pair => decide (router.formDecode pair.1 = name))).map
        (fun pair => (router.formDecode pair.1, router.formDecode pair.2)) := List.filter_map
  unfold fieldValue at hvalue
  rw [hdecoded] at hvalue
  rw [hkeep, hmem]
  cases hpairs : request.pairs.filter
      (fun pair => decide (router.formDecode pair.1 = name)) with
  | nil =>
    rw [hpairs] at hvalue
    cases hvalue
    exact iff_of_true rfl (fun pair hpair => absurd hpair List.not_mem_nil)
  | cons pair rest =>
    cases rest with
    | cons second rest =>
      rw [hpairs] at hvalue
      cases hvalue
    | nil =>
      rw [hpairs] at hvalue
      cases hvalue
      have hsome := hread _ rfl
      rw [List.forall_mem_singleton, Option.bind_some, List.reverse_singleton,
        List.findSome?_singleton, readNamed]
      by_cases hplain : pair.1 = name
      · rw [if_pos hplain]
        exact ⟨fun heq => ⟨hplain, heq⟩, fun h => h.2⟩
      · rw [if_neg hplain]
        exact iff_of_false (fun heq => hsome heq.symm) (fun h => hplain h.1)

/-- What the extractor reads when it accepts a query. -/
theorem queryExtractor_ok {query : Option String} {parsed : ListObjectsV2Query}
    (h : queryExtractor router query = some parsed) :
    let value := fun name => fieldValue name ((queryPairs (query.getD "")).map
      (fun pair => (router.formDecode pair.1, router.formDecode pair.2)))
    value "list-type" = some parsed.listType ∧ value "prefix" = some parsed.prefixText ∧
      (∃ text, value "max-keys" = some text ∧ parsed.maxKeys = text.bind (parseUnsigned usizeMax) ∧
        ∀ digits ∈ text, parseUnsigned usizeMax digits ≠ none) ∧
      value "continuation-token" = some parsed.continuationToken ∧
      value "start-after" = some parsed.startAfter ∧ value "delimiter" = some parsed.delimiter := by
  intro value
  unfold queryExtractor at h
  simp only [Option.bind_eq_bind] at h
  obtain ⟨listType, hlistType, h⟩ := Option.bind_eq_some_iff.mp h
  obtain ⟨prefixText, hprefix, h⟩ := Option.bind_eq_some_iff.mp h
  obtain ⟨text, htext, h⟩ := Option.bind_eq_some_iff.mp h
  have hrest : ∀ maxKeys : Option Nat, ((value "continuation-token").bind fun token =>
      (value "start-after").bind fun startAfter => (value "delimiter").bind fun delimiter =>
        some (⟨listType, prefixText, maxKeys, token, startAfter, delimiter⟩ :
          ListObjectsV2Query)) = some parsed →
      parsed.maxKeys = maxKeys ∧ value "list-type" = some parsed.listType ∧
        value "prefix" = some parsed.prefixText ∧
        value "continuation-token" = some parsed.continuationToken ∧
        value "start-after" = some parsed.startAfter ∧
        value "delimiter" = some parsed.delimiter := by
    intro maxKeys hread
    obtain ⟨token, htoken, hread⟩ := Option.bind_eq_some_iff.mp hread
    obtain ⟨startAfter, hafter, hread⟩ := Option.bind_eq_some_iff.mp hread
    obtain ⟨delimiter, hdelimiter, hread⟩ := Option.bind_eq_some_iff.mp hread
    cases hread
    exact ⟨rfl, hlistType, hprefix, htoken, hafter, hdelimiter⟩
  cases text with
  | none =>
    obtain ⟨hmaxKeys, hone, htwo, hfour⟩ := hrest none h
    exact ⟨hone, htwo, ⟨none, htext, hmaxKeys,
      fun digits hdigits => absurd hdigits (Option.not_mem_none _)⟩, hfour⟩
  | some digits =>
    obtain ⟨maxKeys, hread, h⟩ := Option.bind_eq_some_iff.mp h
    obtain ⟨number, hnumber, rfl⟩ := Option.map_eq_some_iff.mp hread
    obtain ⟨hmaxKeys, hone, htwo, hfour⟩ := hrest (some number) h
    refine ⟨hone, htwo, ⟨some digits, htext, hmaxKeys.trans hnumber.symm, ?_⟩, hfour⟩
    rintro _ ⟨⟩ hnone
    rw [hnone] at hnumber
    cases hnumber

/-- **When the raw query of a virtual host gives the list that the extractor gives.** -/
theorem parseListObjectsV2Query_eq_iff {parsed : ListObjectsV2Query}
    (h : queryExtractor router (request.query.map Subtype.val) = some parsed) :
    parseListObjectsV2Query (request.query.map Subtype.val) = parsed ↔
      PlainListQuery router request := by
  obtain ⟨hlistType, hprefix, ⟨text, htext, hmaxKeys, hnumber⟩, htoken, hafter, hdelimiter⟩ :=
    queryExtractor_ok h
  have hsome : ∀ (value : Option String), ∀ text ∈ value, some text ≠ none :=
    fun _ _ _ h => Option.some_ne_none _ h
  have hone := plainField_iff (by decide) (by decide) hlistType (hsome _)
  have htwo := plainField_iff (by decide) (by decide) hprefix (hsome _)
  have hthree := plainField_iff (by decide) (by decide) htext hnumber
  have hfour := plainField_iff (by decide) (by decide) htoken (hsome _)
  have hfive := plainField_iff (by decide) (by decide) hafter (hsome _)
  have hsix := plainField_iff (by decide) (by decide) hdelimiter (hsome _)
  rw [← hmaxKeys] at hthree
  simp only [Option.bind_fun_some] at hone htwo hfour hfive hsix
  have hparse := parseListObjectsV2Query_eq (request.send "" emptyText)
  change parseListObjectsV2Query (request.query.map Subtype.val) = _ at hparse
  rw [hparse]
  constructor
  · rintro rfl
    exact ⟨hone.mp rfl, htwo.mp rfl, hthree.mp rfl, hfour.mp rfl, hfive.mp rfl, hsix.mp rfl⟩
  · intro hplain
    have hlast : ∀ {β : Type} (name : String) (read : String → Option β),
        lastValue name read (request.send "" emptyText) =
          request.pairs.reverse.findSome? (readNamed name read) := fun _ _ => rfl
    simp only [hlast]
    rw [hone.mpr hplain.listType, htwo.mpr hplain.prefixText, hthree.mpr hplain.maxKeys,
      hfour.mpr hplain.continuationToken, hfive.mpr hplain.startAfter,
      hsix.mpr hplain.delimiter]

/-- The same list of the same bucket. -/
def SameList (router : S3Router) (endpoint : Endpoint) (request : ClientRequest)
    (bucket : BucketName) : Prop :=
  ∃ op, op.bucket = some bucket.bucket ∧ op.listing ≠ none ∧
    operation router (pathStyleBucket endpoint request bucket) = some (.ok op) ∧
    operation router (virtualStyleBucket endpoint request bucket) = some (.ok op)

/-- The list can be asked for either way. -/
structure ListsAlike (router : S3Router) (endpoint : Endpoint) (request : ClientRequest)
    (bucket : BucketName) : Prop where
  not_own : (pathStyleBucket endpoint request bucket).path.val ∉ ownPaths
  accepted : queryExtractor router (request.query.map Subtype.val) ≠ none
  host : HostNames endpoint bucket.bucket
  plain : PlainListQuery router request

/-- **When the two styles select the same keys.** -/
theorem sameList_iff (h : Documented router) (hget : request.method.val = "GET") :
    SameList router endpoint request bucket ↔ ListsAlike router endpoint request bucket := by
  have hpath : operation router (pathStyleBucket endpoint request bucket) =
      if "/" ++ bucket.text.val ∈ ownPaths then none
      else (queryExtractor router (request.query.map Subtype.val)).map (fun query =>
        .ok ⟨"GET", some bucket.bucket, none, none, some query, none⟩) := by
    have hnone : bucketFromVirtualHost (pathStyleBucket endpoint request bucket) = none :=
      bucketFromVirtualHost_authority request _
    have hmethod : (pathStyleBucket endpoint request bucket).method.val = "GET" := hget
    have hvalue : (pathStyleBucket endpoint request bucket).path.val = "/" ++ bucket.text.val := rfl
    unfold operation
    rw [hnone, hvalue]
    by_cases hown : "/" ++ bucket.text.val ∈ ownPaths
    · rw [if_pos hown, h.own _ hown]
    · rw [if_neg hown, h.segment _ bucket.ne_empty bucket.segment hown, bucket.decoded,
        Option.map_some]
      dsimp only
      rw [if_pos hmethod, hmethod]
      rfl
  have hvirtual : operation router (virtualStyleBucket endpoint request bucket) =
      some (.ok ⟨"GET", bucketFromVirtualHost (virtualStyleBucket endpoint request bucket), none,
        none, (bucketFromVirtualHost (virtualStyleBucket endpoint request bucket)).map
          (fun _ => parseListObjectsV2Query (request.query.map Subtype.val)), none⟩) := by
    have hmethod : (virtualStyleBucket endpoint request bucket).method.val = "GET" := hget
    have hvalue : (virtualStyleBucket endpoint request bucket).path.val = "/" := rfl
    unfold operation
    rw [hvalue, h.root]
    dsimp only
    rw [if_pos (Or.inl hmethod), hmethod]
    rfl
  have hnames := @bucketFromVirtualHost_virtual endpoint request bucket (rooted emptyText)
  constructor
  · rintro ⟨op, -, -, hone, htwo⟩
    rw [hpath] at hone
    by_cases hown : "/" ++ bucket.text.val ∈ ownPaths
    · rw [if_pos hown] at hone
      cases hone
    rw [if_neg hown] at hone
    obtain ⟨query, hquery, heq⟩ := Option.map_eq_some_iff.mp hone
    rw [hvirtual, ← heq] at htwo
    obtain ⟨-, hbucket, -, -, hlisting, -⟩ :=
      S3Operation.mk.inj (Except.ok.inj (Option.some.inj htwo))
    rw [hbucket, Option.map_some] at hlisting
    refine ⟨hown, ?_, hnames.mp hbucket, ?_⟩
    · rw [hquery]
      exact Option.some_ne_none query
    · exact (parseListObjectsV2Query_eq_iff hquery).mp (Option.some.inj hlisting)
  · rintro ⟨hown, haccepted, hhost, hplain⟩
    obtain ⟨query, hquery⟩ := Option.ne_none_iff_exists'.mp haccepted
    refine ⟨⟨"GET", some bucket.bucket, none, none, some query, none⟩, rfl,
      Option.some_ne_none query, ?_, ?_⟩
    · have hown' : "/" ++ bucket.text.val ∉ ownPaths := hown
      rw [hpath, if_neg hown', hquery]
      rfl
    · have hbucket : bucketFromVirtualHost (virtualStyleBucket endpoint request bucket) =
          some bucket.bucket := hnames.mpr hhost
      rw [hvirtual, hbucket, Option.map_some,
        (parseListObjectsV2Query_eq_iff hquery).mpr hplain]

end Lists

/-! ## Section 6: Copy sources -/

/-- A header value that stands for the object: the bucket and the key with a slash between them,
percent-encoded, and with a slash in front or without. -/
def NamesObject (raw bucket key : String) : Prop :=
  ∃ slash, (slash = "" ∨ slash = "/") ∧
    percentDecode (trim raw) = some (slash ++ bucket ++ "/" ++ key)

/-- **The copy sources that are read as they are meant.** -/
theorem parseCopySourceHeader_iff {router : S3Router} (h : Documented router)
    {raw bucket key : String} (hbucket : bucket ≠ "") (hkey : key ≠ "")
    (hraw : NamesObject raw bucket key) :
    parseCopySourceHeader router raw = .ok ⟨bucket, key⟩ ↔
      '/' ∉ bucket.toList ∧ trim bucket = bucket ∧ trim key = key := by
  obtain ⟨slash, hslash, hdecoded⟩ := hraw
  unfold parseCopySourceHeader
  rw [h.decode, hdecoded]
  dsimp only
  constructor
  · intro hparsed
    split at hparsed
    · cases hparsed
    split at hparsed
    · cases hparsed
    rename_i first rest hsplit
    split at hparsed
    · cases hparsed
    obtain ⟨hone, htwo⟩ := ParsedCopySource.mk.inj (Except.ok.inj hparsed)
    refine ⟨?_, ?_, ?_⟩
    · rw [← hone]
      exact fun hmem => (splitOnce_eq_some hsplit).1 (mem_of_mem_trim hmem)
    · rw [← hone, trim_trim]
    · rw [← htwo, trim_trim]
  · rintro ⟨hsegment, htrimBucket, htrimKey⟩
    -- nothing but the slash in front is trimmed, and the next one stands behind the bucket
    have hstart := segment_ne_slash hbucket hsegment key
    have hnormalized : trimStartMatches '/' (slash ++ bucket ++ "/" ++ key) =
        bucket ++ "/" ++ key := by
      rcases hslash with rfl | rfl
      · rw [String.empty_append, trimStartMatches_eq_self hstart]
      · have hassoc : "/" ++ bucket ++ "/" ++ key = "/" ++ (bucket ++ "/" ++ key) := by
          rw [← String.toList_inj]
          simp
        rw [hassoc, trimStartMatches_slash, trimStartMatches_eq_self hstart]
    have hsplit : splitOnce '/' (bucket ++ "/" ++ key) = some (bucket, key) :=
      splitOnce_append hsegment
    have hne : bucket ++ "/" ++ key ≠ "" := by
      intro heq
      rw [heq] at hsplit
      cases hsplit
    rw [hnormalized, if_neg hne, hsplit]
    dsimp only
    rw [htrimBucket, htrimKey, if_neg (not_or.mpr ⟨hbucket, hkey⟩)]

/-! ## Section 7: A router -/

/-- What the two routes of the data plane do with a path. -/
def dataPlaneRoute (path : String) : Option S3Path :=
  if path ∈ ownPaths then none
  else
    (stripPrefix "/" path).bind (fun rest =>
      if rest = "" then some .root
      else
        match splitOnce '/' rest with
        | none => (percentDecode rest).map .segment
        | some (first, tail) =>
          if first = "" ∨ tail = "" then none
          else (percentDecode first).bind (fun bucket =>
            (percentDecode tail).map (.object bucket)))

theorem stripPrefix_slash (rest : String) : stripPrefix "/" ("/" ++ rest) = some rest := by
  have hprefix : "/".toList.isPrefixOf ("/" ++ rest).toList = true := by
    rw [List.isPrefixOf_iff_prefix, String.toList_append]
    exact List.prefix_append _ _
  rw [stripPrefix, if_pos hprefix, Option.some.injEq, ← String.toList_inj, String.toList_ofList,
    String.toList_append, List.drop_left]

theorem eq_of_stripPrefix_slash {path rest : String} (h : stripPrefix "/" path = some rest) :
    path = "/" ++ rest := by
  unfold stripPrefix at h
  split at h
  · rename_i hprefix
    obtain ⟨tail, htail⟩ := List.isPrefixOf_iff_prefix.mp hprefix
    have hlist := congrArg String.toList (Option.some.inj h)
    rw [String.toList_ofList, ← htail, List.drop_left] at hlist
    rw [← String.toList_inj, ← htail, String.toList_append, hlist]
  · cases h

/-- The routes behind the slash in front. -/
theorem dataPlaneRoute_slash {rest : String} (h : "/" ++ rest ∉ ownPaths) :
    dataPlaneRoute ("/" ++ rest) =
      if rest = "" then some .root
      else
        match splitOnce '/' rest with
        | none => (percentDecode rest).map .segment
        | some (first, tail) =>
          if first = "" ∨ tail = "" then none
          else (percentDecode first).bind (fun bucket =>
            (percentDecode tail).map (.object bucket)) := by
  rw [dataPlaneRoute, if_neg h, stripPrefix_slash, Option.bind_some]

theorem dataPlaneRoute_key_shorter (path bucket key : String)
    (h : dataPlaneRoute path = some (.object bucket key)) :
    key.toList.length < (trimStartMatches '/' path).toList.length := by
  unfold dataPlaneRoute at h
  split at h
  · cases h
  obtain ⟨rest, hrest, h⟩ := Option.bind_eq_some_iff.mp h
  split at h
  · cases h
  split at h
  · obtain ⟨segment, -, hsegment⟩ := Option.map_eq_some_iff.mp h
    cases hsegment
  · rename_i first tail hsplit
    split at h
    · cases h
    rename_i hparts
    obtain ⟨bucket', -, h⟩ := Option.bind_eq_some_iff.mp h
    obtain ⟨key', hkey, heq⟩ := Option.map_eq_some_iff.mp h
    obtain ⟨rfl, rfl⟩ := S3Path.object.inj heq
    obtain ⟨hfirst, rfl⟩ := splitOnce_eq_some hsplit
    have hle := length_percentDecode_le hkey
    have hstart : ∀ rest, first ++ String.singleton '/' ++ tail ≠ "/" ++ rest :=
      segment_ne_slash (fun hempty => hparts (Or.inl hempty)) hfirst tail
    rw [eq_of_stripPrefix_slash hrest, trimStartMatches_slash, trimStartMatches_eq_self hstart]
    simp only [String.toList_append, List.length_append, String.toList_singleton,
      List.length_singleton]
    omega

/-- Plus signs are blanks; a text that is not UTF-8 stays as it is. -/
def dataPlaneFormDecode (text : String) : String :=
  (percentDecode (String.ofList (text.toList.map (fun c => if c = '+' then ' ' else c)))).getD text

theorem dataPlaneFormDecode_plain (text : String) (hplus : '+' ∉ text.toList)
    (hpercent : '%' ∉ text.toList) : dataPlaneFormDecode text = text := by
  have hmap : text.toList.map (fun c => if c = '+' then ' ' else c) = text.toList := by
    refine (List.map_congr_left (fun c hc => ?_)).trans (List.map_id _)
    exact if_neg (fun heq : c = '+' => hplus (heq ▸ hc))
  rw [dataPlaneFormDecode, hmap, String.ofList_toList, percentDecode_plain hpercent,
    Option.getD_some]

/-- A router as the router crate documents it. -/
def dataPlaneRouter : S3Router where
  route := dataPlaneRoute
  percentDecodeUtf8 := percentDecode
  formDecode := dataPlaneFormDecode
  route_empty := by decide
  key_shorter := dataPlaneRoute_key_shorter
  formDecode_plain := dataPlaneFormDecode_plain

theorem splitOnce_of_not_mem {c : Char} {text : String} (h : c ∉ text.toList) :
    splitOnce c text = none := by
  rw [splitOnce, if_neg h]

theorem documented_dataPlaneRouter : Documented dataPlaneRouter where
  decode := fun _ => rfl
  own := fun _ hmem => if_pos hmem
  root := by
    have hroot := @dataPlaneRoute_slash "" (by decide)
    rwa [String.append_empty, if_pos rfl] at hroot
  segment := by
    intro text hne hslash hown
    refine (dataPlaneRoute_slash hown).trans ?_
    rw [if_neg hne, splitOnce_of_not_mem hslash]
  object := by
    intro first rest hfirst hslash hrest hown
    have hne : first ++ "/" ++ rest ≠ "" := by
      rw [← String.toList_inj.ne]
      simp
    have hsplit : splitOnce '/' (first ++ "/" ++ rest) = some (first, rest) :=
      splitOnce_append hslash
    refine (dataPlaneRoute_slash hown).trans ?_
    rw [if_neg hne, hsplit]
    dsimp only
    rw [if_neg (not_or.mpr ⟨hfirst, hrest⟩)]
  folder := by
    intro first hfirst hslash
    have hne : first ++ "/" ≠ "" := by
      rw [← String.toList_inj.ne]
      simp
    have hsplit : splitOnce '/' (first ++ "/" ++ "") = some (first, "") :=
      splitOnce_append hslash
    rw [String.append_empty] at hsplit
    by_cases hown : "/" ++ (first ++ "/") ∈ ownPaths
    · exact if_pos hown
    · refine (dataPlaneRoute_slash hown).trans ?_
      rw [if_neg hne, hsplit]
      dsimp only
      rw [if_pos (Or.inr rfl)]
  empty_segment := by
    intro rest
    have hne : "/" ++ rest ≠ "" := by
      rw [← String.toList_inj.ne]
      simp
    have hsplit : splitOnce '/' ("" ++ "/" ++ rest) = some ("", rest) :=
      splitOnce_append (by decide)
    rw [String.empty_append] at hsplit
    by_cases hown : "/" ++ ("/" ++ rest) ∈ ownPaths
    · exact if_pos hown
    · refine (dataPlaneRoute_slash hown).trans ?_
      rw [if_neg hne, hsplit]
      dsimp only
      rw [if_pos (Or.inl rfl)]

/-! ## Section 8: The styles -/

def localEndpoint : Endpoint where
  name := "localhost"
  port := none
  name_local := Or.inl rfl
  port_digits := by
    intro digits hdigits
    cases hdigits
  port_number := by
    intro digits hdigits
    cases hdigits

def photos : BucketName where
  bucket := "photos"
  text := ⟨"photos", forall_mem_of_all (by decide)⟩
  ne_empty := by decide
  segment := by decide
  decoded := percentDecode_plain (by decide)

/-- A key without an escape. -/
def plainKey : KeyName where
  key := "2024/cat.png"
  text := ⟨"2024/cat.png", forall_mem_of_all (by decide)⟩
  ne_empty := by decide
  decoded := percentDecode_plain (by decide)

/-- A key with a blank, which a client escapes. -/
def spacedKey : KeyName where
  key := "a b"
  text := ⟨"a%20b", forall_mem_of_all (by decide)⟩
  ne_empty := by decide
  decoded := percentDecode_percentEncode "a b"

theorem get_visible : ∀ c ∈ "GET".toList, 32 < c.toNat := forall_mem_of_all (by decide)

def getRequest : ClientRequest where
  method := ⟨"GET", get_visible⟩
  query := none
  headers := []
  body := none
  no_host := by
    intro header hheader
    cases hheader

theorem photos_hostNames : HostNames localEndpoint photos.bucket where
  visible := forall_mem_of_all (by decide)
  nonempty := by decide
  no_blank := by
    intro c hc
    cases hc
    decide
  lowercase := forall_mem_of_all (by decide)
  no_dot := by decide
  no_colon := fun _ => by decide

theorem getRequest_accepted :
    queryExtractor dataPlaneRouter (getRequest.query.map Subtype.val) ≠ none := by
  decide

/-- **The two addressing styles, and a copy source, mean the same object.** -/
theorem addressing_styles_iff {router : S3Router} (h : Documented router) (endpoint : Endpoint) :
    (∀ request bucket key, HandlersAccept router endpoint request bucket key →
      ((ActsOn router (pathStyle endpoint request bucket key) bucket.bucket key.key ∧
        ActsOn router (virtualStyle endpoint request bucket key) bucket.bucket key.key) ↔
        (pathStyle endpoint request bucket key).path.val ∉ ownPaths ∧
          SameObject router endpoint request bucket key)) ∧
    (∀ request bucket, request.method.val = "GET" →
      (SameList router endpoint request bucket ↔ ListsAlike router endpoint request bucket)) ∧
    ∀ (raw : String) (bucket : BucketName) (key : KeyName),
      NamesObject raw bucket.bucket key.key →
      (parseCopySourceHeader router raw = .ok ⟨bucket.bucket, key.key⟩ ↔
        '/' ∉ bucket.bucket.toList ∧ trim bucket.bucket = bucket.bucket ∧
          trim key.key = key.key) := by
  refine ⟨fun request bucket key => actsOn_both_iff h, fun request bucket => sameList_iff h, ?_⟩
  intro raw bucket key hraw
  have hbucket := percentDecode_ne_empty bucket.decoded bucket.ne_empty
  have hkey := percentDecode_ne_empty key.decoded key.ne_empty
  exact parseCopySourceHeader_iff h hbucket hkey hraw

theorem addressing_styles_iff_plainKey :
    (ActsOn dataPlaneRouter (pathStyle localEndpoint getRequest photos plainKey) "photos"
        "2024/cat.png" ∧
      ActsOn dataPlaneRouter (virtualStyle localEndpoint getRequest photos plainKey) "photos"
        "2024/cat.png") ∧
    SameList dataPlaneRouter localEndpoint getRequest photos ∧
    parseCopySourceHeader dataPlaneRouter "/photos/2024/cat.png" =
      .ok ⟨"photos", "2024/cat.png"⟩ := by
  obtain ⟨hobjects, hlists, hcopies⟩ :=
    addressing_styles_iff documented_dataPlaneRouter localEndpoint
  refine ⟨?_, ?_, ?_⟩
  · apply (hobjects getRequest photos plainKey (handlersAccept_get rfl)).mpr
    refine ⟨by decide, photos_hostNames, rfl, ?_, ?_, by decide, ?_⟩
    · intro rest heq
      have hslash : ("/" ++ rest).toList.head? = some '/' := by simp
      rw [← heq] at hslash
      exact absurd hslash (by decide)
    · intro name hname heq
      have hslash : (name ++ "/").toList.getLast? = some '/' := by simp
      rw [← heq] at hslash
      exact absurd hslash (by decide)
    · exact fun _ _ => getRequest_accepted
  · apply (hlists getRequest photos rfl).mpr
    have hplain : ∀ {β : Type} (name : String) (read : String → Option β),
        PlainField dataPlaneRouter getRequest name read :=
      fun _ _ pair hpair => absurd hpair List.not_mem_nil
    exact ⟨by decide, getRequest_accepted, photos_hostNames, hplain _ _, hplain _ _, hplain _ _,
      hplain _ _, hplain _ _, hplain _ _⟩
  · apply (hcopies "/photos/2024/cat.png" photos plainKey ?_).mpr
    · exact ⟨by decide, by decide, by decide⟩
    · have htrim : trim "/photos/2024/cat.png" = "/photos/2024/cat.png" := by decide
      refine ⟨"/", Or.inr rfl, ?_⟩
      rw [htrim, percentDecode_plain (by decide)]
      rfl

/-- **An escaped key is another object behind a virtual host.** -/
theorem escaped_key_differs :
    HandlersAccept dataPlaneRouter localEndpoint getRequest photos spacedKey ∧
      ActsOn dataPlaneRouter (pathStyle localEndpoint getRequest photos spacedKey) "photos" "a b" ∧
      ActsOn dataPlaneRouter (virtualStyle localEndpoint getRequest photos spacedKey) "photos"
        "a%20b" ∧
      ¬ ActsOn dataPlaneRouter (virtualStyle localEndpoint getRequest photos spacedKey) "photos"
        "a b" := by
  have haccept := @handlersAccept_get dataPlaneRouter localEndpoint getRequest photos spacedKey rfl
  have hvirtual : bucketFromVirtualHost (virtualStyle localEndpoint getRequest photos spacedKey) =
      some "photos" := (bucketFromVirtualHost_virtual getRequest photos _).mpr photos_hostNames
  have hroute : dataPlaneRouter.route "/a%20b" = some (.segment "a b") := by
    have hdecoded : percentDecode "a%20b" = some "a b" := spacedKey.decoded
    have hsegment := documented_dataPlaneRouter.segment "a%20b" (by decide) (by decide) (by decide)
    rwa [hdecoded] at hsegment
  refine ⟨haccept, ?_, ⟨⟨"GET", some "photos", some "a%20b", none, none, none⟩, ?_, rfl, rfl⟩, ?_⟩
  · exact (actsOn_pathStyle_iff documented_dataPlaneRouter haccept).mpr (by decide)
  · have hpath : (virtualStyle localEndpoint getRequest photos spacedKey).path.val = "/a%20b" := by
      decide
    have htrim : trimStartMatches '/' "/a%20b" = "a%20b" := by decide
    unfold operation
    rw [hpath, hroute, hvirtual]
    dsimp only
    rw [if_neg (fun h => getRequest_accepted h.2)]
    apply objectOperation_get rfl
    unfold resolveBucketAndKeyForObjectPath
    rw [hvirtual, hpath, htrim]
    rfl
  · intro hacts
    have hplain := (sameObject_of_actsOn documented_dataPlaneRouter hacts).plain
    exact absurd hplain (by decide)

end Netdisk2Blob.Gateway.AddressingStyles
