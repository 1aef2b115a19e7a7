import Netdisk2Blob.ControlPlane.Applications

/-!
# Scopes of Permissions and Policies

An application is confined to lists of buckets and prefixes, and a content policy applies to
lists of applications, buckets, prefixes and content types. An update normalizes the lists,
and an empty list confines nothing.

## Contents

- `dataPlanePermissionAllowed`: what a request may do
- `mem_normalizeListFrom`: where an entry of a normalized list comes from
- `NamesBucket`, `CoversKey`, `CoversContentType`: what an entry of an input list stands for
- `normalization_keeps_scopes`: the requests and objects that normalized lists admit
-/

namespace Netdisk2Blob.ControlPlane

open Library Text Blob Gateway

/-! ## Section 1: Requests -/

inductive S3ActionKind where
  | listBuckets
  | listObjects
  | readObject
  | writeObject
  | deleteObject
  deriving DecidableEq, Repr

/-- The flag of an action. -/
def actionAllowed (permissions : DataPlaneApplicationPermissions) : S3ActionKind → Bool
  | .listBuckets => permissions.listBuckets
  | .listObjects => permissions.listObjects
  | .readObject => permissions.readObject
  | .writeObject => permissions.writeObject
  | .deleteObject => permissions.deleteObject

def dataPlanePermissionAllowed (permissions : DataPlaneApplicationPermissions)
    (action : S3ActionKind) (bucket key : Option String) : Bool :=
  if !actionAllowed permissions action then false
  else if action = .listBuckets then true
  else if !permissions.allowedBuckets.isEmpty &&
      !bucket.any (fun bucket => decide (bucket ∈ permissions.allowedBuckets)) then false
  else if action = .listObjects ∧ key = none then true
  else if permissions.allowedPrefixes.isEmpty then true
  else
    match key with
    | none => false
    | some key =>
      if action = .listObjects then
        permissions.allowedPrefixes.any (fun pre => listPrefixOverlapsAllowedPrefix key pre)
      else permissions.allowedPrefixes.any (fun pre => objectKeyMatchesAllowedPrefix key pre)

/-- The containers of a listing, by their names. -/
def filterContainersForApplication (containers : List String)
    (application : S3ApplicationIdentity) : List String :=
  if application.permissions.allowedBuckets.isEmpty then containers
  else containers.filter fun name => decide (name ∈ application.permissions.allowedBuckets)

section Admitted

variable {permissions : DataPlaneApplicationPermissions} {action : S3ActionKind}
  {bucket key : Option String}

/-- An admitted request names one of the buckets, if there are any. -/
theorem bucket_of_allowed (h : dataPlanePermissionAllowed permissions action bucket key = true)
    (haction : action ≠ .listBuckets) (hbuckets : permissions.allowedBuckets ≠ []) :
    ∃ name, bucket = some name ∧ name ∈ permissions.allowedBuckets := by
  simp only [dataPlanePermissionAllowed, haction, ↓reduceIte] at h
  split at h
  · cases h
  split at h
  · cases h
  · rename_i hbucket
    have hempty : permissions.allowedBuckets.isEmpty = false := by simpa using hbuckets
    rw [hempty] at hbucket
    cases bucket with
    | none => exact absurd rfl hbucket
    | some name =>
      refine ⟨name, rfl, ?_⟩
      simpa using hbucket

/-- An admitted request for an object names a key under one of the prefixes, if there are
any. -/
theorem key_of_allowed (h : dataPlanePermissionAllowed permissions action bucket key = true)
    (hbuckets : action ≠ .listBuckets) (hobjects : action ≠ .listObjects)
    (hprefixes : permissions.allowedPrefixes ≠ []) :
    ∃ name, key = some name ∧
      ∃ pre ∈ permissions.allowedPrefixes, objectKeyMatchesAllowedPrefix name pre = true := by
  have hempty : permissions.allowedPrefixes.isEmpty = false := by simpa using hprefixes
  simp only [dataPlanePermissionAllowed, hbuckets, hobjects, hempty, ↓reduceIte] at h
  split at h
  · cases h
  split at h
  · cases h
  cases key with
  | none => simp at h
  | some name =>
    refine ⟨name, rfl, ?_⟩
    simpa using h

/-- An admitted listing of keys with a prefix asks for one that overlaps an allowed one. -/
theorem prefix_of_allowed {pre : String}
    (h : dataPlanePermissionAllowed permissions .listObjects bucket (some pre) = true)
    (hprefixes : permissions.allowedPrefixes ≠ []) :
    ∃ allowed ∈ permissions.allowedPrefixes,
      listPrefixOverlapsAllowedPrefix pre allowed = true := by
  have hempty : permissions.allowedPrefixes.isEmpty = false := by simpa using hprefixes
  simp only [dataPlanePermissionAllowed, reduceCtorEq, hempty, ↓reduceIte] at h
  split at h
  · cases h
  split at h
  · cases h
  · simpa using h

end Admitted

/-! ## Section 2: Normalized lists -/

/-- The entries of a normalized list are the normalized entries that are not empty. -/
theorem mem_normalizeListFrom {normalize : String → String} {values seen : List String}
    {name : String} : name ∈ normalizeListFrom normalize seen values ↔
      name ≠ "" ∧ name ∉ seen ∧ ∃ entry ∈ values, normalize entry = name := by
  induction values generalizing seen with
  | nil => simp [normalizeListFrom]
  | cons value values ih =>
    rw [normalizeListFrom]
    split
    · -- the entry is dropped, and `name` is not the one it stands for
      rename_i hdropped
      rw [ih]
      refine and_congr_right fun hname => and_congr_right fun hseen => ?_
      constructor
      · rintro ⟨entry, hentry, heq⟩
        exact ⟨entry, List.mem_cons_of_mem _ hentry, heq⟩
      · rintro ⟨entry, hentry, heq⟩
        rcases List.mem_cons.mp hentry with rfl | hentry
        · rcases hdropped with hempty | hmem
          · exact absurd (heq.symm.trans (String.isEmpty_iff.mp hempty)) hname
          · exact absurd (heq ▸ hmem) hseen
        · exact ⟨entry, hentry, heq⟩
    · rename_i hkept
      obtain ⟨hnonempty, hfresh⟩ := not_or.mp hkept
      rw [List.mem_cons, ih]
      constructor
      · rintro (rfl | ⟨hname, hseen, entry, hentry, heq⟩)
        · exact ⟨fun hempty => hnonempty (String.isEmpty_iff.mpr hempty), hfresh,
            value, List.mem_cons_self, rfl⟩
        · exact ⟨hname, fun hmem => hseen (List.mem_cons_of_mem _ hmem), entry,
            List.mem_cons_of_mem _ hentry, heq⟩
      · rintro ⟨hname, hseen, entry, hentry, heq⟩
        by_cases hvalue : name = normalize value
        · exact Or.inl hvalue
        · refine Or.inr ⟨hname, fun hmem => ?_, entry, ?_, heq⟩
          · exact (List.mem_cons.mp hmem).elim hvalue hseen
          · refine (List.mem_cons.mp hentry).resolve_left fun hsame => hvalue ?_
            rw [← heq, hsame]

/-- A normalized list keeps confining when an entry is not normalized to nothing. -/
theorem normalizeListFrom_ne_nil {normalize : String → String} {values : List String}
    (h : ∃ entry ∈ values, normalize entry ≠ "") : normalizeListFrom normalize [] values ≠ [] := by
  obtain ⟨entry, hentry, hne⟩ := h
  exact List.ne_nil_of_mem (mem_normalizeListFrom.mpr ⟨hne, List.not_mem_nil, entry, hentry, rfl⟩)

theorem exists_of_mem_normalizeListFrom {normalize : String → String} {values : List String}
    {name : String} (h : name ∈ normalizeListFrom normalize [] values) :
    ∃ entry ∈ values, normalize entry = name :=
  (mem_normalizeListFrom.mp h).2.2

theorem toAsciiLowercase_eq_empty {s : String} : toAsciiLowercase s = "" ↔ s = "" := by
  rw [toAsciiLowercase, ← String.toList_inj, String.toList_ofList, ← String.toList_inj]
  simp

/-! ## Section 3: What the entries of an input list stand for -/

/-- The entry names the bucket, up to case; blanks around it do not count. -/
def NamesBucket (entry bucket : String) : Prop :=
  toAsciiLowercase bucket = toAsciiLowercase (trim entry)

/-- An entry of a list of prefixes without the blanks around it and then without the slashes
around it. -/
def scopeOf (entry : String) : String :=
  String.ofList (trimList (fun c => decide (c = '/')) (trim entry).toList)

/-- The entry covers a key that is its scope or continues it after a slash. -/
def CoversKey (entry key : String) : Prop :=
  key = scopeOf entry ∨ ∃ rest, key = scopeOf entry ++ "/" ++ rest

/-- The entry covers its own content type and, where it ends in `/*`, the whole family. -/
def CoversContentType (entry contentType : String) : Prop :=
  toAsciiLowercase (trim contentType) = toAsciiLowercase (trim entry) ∨
    ∃ family subtype, toAsciiLowercase (trim entry) = family ++ "/*" ∧
      toAsciiLowercase (trim contentType) = family ++ "/" ++ subtype

theorem exists_append_of_startsWith {s pre : String} (h : startsWith s pre = true) :
    ∃ rest, s = pre ++ rest := by
  obtain ⟨tail, htail⟩ := List.isPrefixOf_iff_prefix.mp h
  exact ⟨String.ofList tail, by
    rw [← String.toList_inj, String.toList_append, String.toList_ofList, htail]⟩

instance (entry bucket : String) : Decidable (NamesBucket entry bucket) :=
  inferInstanceAs (Decidable (_ = _))

/-- Whether an entry covers a key can be read off the first characters of the key. -/
theorem coversKey_iff {entry key : String} :
    CoversKey entry key ↔ key = scopeOf entry ∨ startsWith key (scopeOf entry ++ "/") = true := by
  refine or_congr_right ⟨?_, ?_⟩
  · rintro ⟨rest, rfl⟩
    simp only [startsWith, String.toList_append]
    exact List.isPrefixOf_iff_prefix.mpr (List.prefix_append _ _)
  · intro h
    exact exists_append_of_startsWith h

instance (entry key : String) : Decidable (CoversKey entry key) :=
  decidable_of_iff _ coversKey_iff.symm

theorem eq_append_of_stripPrefix {pre s rest : String} (h : stripPrefix pre s = some rest) :
    s = pre ++ rest := by
  unfold stripPrefix at h
  split at h
  · rename_i hprefix
    obtain ⟨tail, htail⟩ := List.isPrefixOf_iff_prefix.mp hprefix
    obtain rfl := Option.some.inj h
    rw [← String.toList_inj, String.toList_append, String.toList_ofList, ← htail,
      List.drop_left]
  · cases h

/-- What an allowed prefix of a normalized list matches, its entry covers. -/
theorem covers_of_objectKeyMatches {entry key : String} (hscope : scopeOf entry ≠ "")
    (h : objectKeyMatchesAllowedPrefix key (scopeOf entry) = true) : CoversKey entry key := by
  rw [objectKeyMatchesAllowedPrefix, if_neg hscope, Bool.or_eq_true] at h
  rcases h with hsame | hunder
  · exact Or.inl (of_decide_eq_true hsame)
  · cases hstrip : stripPrefix (scopeOf entry) key with
    | none =>
      rw [hstrip] at hunder
      cases hunder
    | some suffix =>
      rw [hstrip] at hunder
      obtain ⟨rest, rfl⟩ := exists_append_of_startsWith hunder
      exact Or.inr ⟨rest, by rw [eq_append_of_stripPrefix hstrip, String.append_assoc]⟩

/-- A pattern that ends in `/*`, and what is left of it without the star. -/
theorem family_of_pattern {pattern : String} (h : pattern.toList.reverse.take 2 = ['*', '/']) :
    ∃ family, pattern = family ++ "/*" ∧
      String.ofList (pattern.toList.take (pattern.toList.length - 1)) = family ++ "/" := by
  have hrev := List.take_append_drop 2 pattern.toList.reverse
  rw [h] at hrev
  have hlist : pattern.toList = (pattern.toList.reverse.drop 2).reverse ++ ['/', '*'] := by
    have hboth := congrArg List.reverse hrev
    rw [List.reverse_append, List.reverse_reverse] at hboth
    exact hboth.symm
  generalize (pattern.toList.reverse.drop 2).reverse = front at hlist
  refine ⟨String.ofList front, ?_, ?_⟩
  · rw [← String.toList_inj, hlist, String.toList_append, String.toList_ofList]
    rfl
  · have htake : (front ++ ['/', '*']).take ((front ++ ['/', '*']).length - 1) =
        front ++ ['/'] := by
      rw [List.length_append, show front.length + ['/', '*'].length - 1 = front.length + 1 from rfl,
        List.take_length_add_append]
      rfl
    rw [hlist, htake, String.ofList_append]

/-- An object that normalized patterns match has a content type that an entry covers. -/
theorem coversContentType_of_matches {entries : List String} {contentType : Option String}
    (hpatterns : normalizeContentTypeList entries ≠ [])
    (h : contentTypeMatches (normalizeContentTypeList entries) contentType = true) :
    ∃ name, contentType = some name ∧ ∃ entry ∈ entries, CoversContentType entry name := by
  have hempty : (normalizeContentTypeList entries).isEmpty = false := by simpa using hpatterns
  cases contentType with
  | none =>
    rw [contentTypeMatches, hempty] at h
    cases h
  | some name =>
    simp only [contentTypeMatches, hempty] at h
    obtain ⟨pattern, hpattern, hmatch⟩ := List.any_eq_true.mp h
    obtain ⟨entry, hentry, rfl⟩ := exists_of_mem_normalizeListFrom hpattern
    refine ⟨name, rfl, entry, hentry, ?_⟩
    split at hmatch
    · -- the entry ends in `/*`
      rename_i hfamily
      obtain ⟨family, hentryFamily, hstripped⟩ := family_of_pattern hfamily
      obtain ⟨subtype, hsubtype⟩ := Option.isSome_iff_exists.mp hmatch
      rw [hstripped] at hsubtype
      exact Or.inr ⟨family, subtype, hentryFamily, eq_append_of_stripPrefix hsubtype⟩
    · exact Or.inl (of_decide_eq_true hmatch).symm

/-! ## Section 4: Permissions -/

/-- The permissions confine an application to the buckets that the entries name. A listing of
the buckets names none: what it shows is confined. -/
structure WithinBuckets (entries : List String) (permissions : DataPlaneApplicationPermissions) :
    Prop where
  requests : ∀ action bucket key, action ≠ .listBuckets →
    dataPlanePermissionAllowed permissions action bucket key = true →
      ∃ name, bucket = some name ∧ ∃ entry ∈ entries, NamesBucket entry name
  containers : ∀ application : S3ApplicationIdentity, application.permissions = permissions →
    ∀ containers, ∀ name ∈ filterContainersForApplication containers application,
      ∃ entry ∈ entries, NamesBucket entry name

/-- The permissions confine an application to the keys that the entries cover. A listing of
keys may ask for less than an entry: what it shows is confined. -/
structure WithinPrefixes (entries : List String) (permissions : DataPlaneApplicationPermissions) :
    Prop where
  requests : ∀ action bucket key, action ≠ .listBuckets → action ≠ .listObjects →
    dataPlanePermissionAllowed permissions action bucket key = true →
      ∃ name, key = some name ∧ ∃ entry ∈ entries, CoversKey entry name
  listings : ∀ bucket pre,
    dataPlanePermissionAllowed permissions .listObjects bucket (some pre) = true →
      pre = "" ∨ ∃ entry ∈ entries, CoversKey entry pre ∨ ∃ rest, scopeOf entry = pre ++ rest
  objects : ∀ application : S3ApplicationIdentity, application.permissions = permissions →
    ∀ objects, ∀ object ∈ filterObjectsForApplication objects application,
      ∃ entry ∈ entries, CoversKey entry object.key

theorem exists_namesBucket {entries : List String} {name : String}
    (h : name ∈ normalizeBucketList entries) : ∃ entry ∈ entries, NamesBucket entry name := by
  obtain ⟨entry, hentry, heq⟩ := exists_of_mem_normalizeListFrom h
  exact ⟨entry, hentry, by rw [NamesBucket, ← heq, toAsciiLowercase_toAsciiLowercase]⟩

/-- An allowed prefix of a normalized list is the scope of an entry, and not empty. -/
theorem exists_scopeOf {entries : List String} {pre : String}
    (h : pre ∈ normalizePrefixList entries) : ∃ entry ∈ entries, scopeOf entry = pre ∧ pre ≠ "" := by
  obtain ⟨hne, -, entry, hentry, heq⟩ := mem_normalizeListFrom.mp h
  exact ⟨entry, hentry, heq, hne⟩

theorem exists_coversKey {entries : List String} {key : String}
    (h : ∃ pre ∈ normalizePrefixList entries, objectKeyMatchesAllowedPrefix key pre = true) :
    ∃ entry ∈ entries, CoversKey entry key := by
  obtain ⟨pre, hpre, hmatch⟩ := h
  obtain ⟨entry, hentry, rfl, hne⟩ := exists_scopeOf hpre
  exact ⟨entry, hentry, covers_of_objectKeyMatches hne hmatch⟩

theorem withinBuckets_normalize (raw : DataPlaneApplicationPermissions)
    (hentry : ∃ entry ∈ raw.allowedBuckets, trim entry ≠ "") :
    WithinBuckets raw.allowedBuckets (normalizeDataPlaneApplicationPermissions (some raw)) := by
  have hbuckets : normalizeBucketList raw.allowedBuckets ≠ [] := by
    obtain ⟨entry, hmem, hne⟩ := hentry
    exact normalizeListFrom_ne_nil
      ⟨entry, hmem, fun hlower => hne (toAsciiLowercase_eq_empty.mp hlower)⟩
  constructor
  · intro action bucket key haction hallowed
    obtain ⟨name, hname, hmem⟩ := bucket_of_allowed hallowed haction hbuckets
    exact ⟨name, hname, exists_namesBucket hmem⟩
  · intro application hpermissions containers name hname
    have hempty : application.permissions.allowedBuckets.isEmpty = false := by
      rw [hpermissions]
      exact List.isEmpty_eq_false_iff.mpr hbuckets
    simp only [filterContainersForApplication, hempty, Bool.false_eq_true, ↓reduceIte] at hname
    have hmem := of_decide_eq_true (List.mem_filter.mp hname).2
    rw [hpermissions] at hmem
    exact exists_namesBucket hmem

theorem withinPrefixes_normalize (raw : DataPlaneApplicationPermissions)
    (hentry : ∃ entry ∈ raw.allowedPrefixes, scopeOf entry ≠ "") :
    WithinPrefixes raw.allowedPrefixes (normalizeDataPlaneApplicationPermissions (some raw)) := by
  have hprefixes : normalizePrefixList raw.allowedPrefixes ≠ [] := normalizeListFrom_ne_nil hentry
  constructor
  · intro action bucket key hbuckets hobjects hallowed
    obtain ⟨name, hname, hmatch⟩ := key_of_allowed hallowed hbuckets hobjects hprefixes
    exact ⟨name, hname, exists_coversKey hmatch⟩
  · intro bucket pre hallowed
    obtain ⟨allowed, hmem, hoverlap⟩ := prefix_of_allowed hallowed hprefixes
    obtain ⟨entry, hentry, rfl, hne⟩ := exists_scopeOf hmem
    simp only [listPrefixOverlapsAllowedPrefix, Bool.or_eq_true, decide_eq_true_eq] at hoverlap
    rcases hoverlap with (hempty | hunder) | hshorter
    · exact Or.inl hempty
    · exact Or.inr ⟨entry, hentry, Or.inl (covers_of_objectKeyMatches hne hunder)⟩
    · exact Or.inr ⟨entry, hentry, Or.inr (exists_append_of_startsWith hshorter)⟩
  · intro application hpermissions objects object hobject
    have hsees := (List.mem_filter.mp hobject).2
    have hempty : application.permissions.allowedPrefixes.isEmpty = false := by
      rw [hpermissions]
      exact List.isEmpty_eq_false_iff.mpr hprefixes
    rw [S3ApplicationIdentity.seesKey, hempty, Bool.false_or, hpermissions] at hsees
    exact exists_coversKey (List.any_eq_true.mp hsees)

/-! ## Section 5: Policies -/

/-- The rule applies only to objects that the lists of the policy cover, for each list with an
entry that stands for something. -/
structure WithinPolicy (policy rule : ContentPolicyRule) : Prop where
  applications : (∃ entry ∈ policy.applicationIds, trim entry ≠ "") →
    ∀ applicationId bucket key contentType,
      contentPolicyMatches rule applicationId bucket key contentType = true →
        ∃ entry ∈ policy.applicationIds, applicationId = some (trim entry)
  buckets : (∃ entry ∈ policy.buckets, trim entry ≠ "") →
    ∀ applicationId bucket key contentType,
      contentPolicyMatches rule applicationId bucket key contentType = true →
        ∃ entry ∈ policy.buckets, NamesBucket entry bucket
  prefixes : (∃ entry ∈ policy.prefixes, scopeOf entry ≠ "") →
    ∀ applicationId bucket key contentType,
      contentPolicyMatches rule applicationId bucket key contentType = true →
        ∃ entry ∈ policy.prefixes, ∃ rest, key = scopeOf entry ++ rest
  contentTypes : (∃ entry ∈ policy.contentTypes, trim entry ≠ "") →
    ∀ applicationId bucket key contentType,
      contentPolicyMatches rule applicationId bucket key contentType = true →
        ∃ name, contentType = some name ∧
          ∃ entry ∈ policy.contentTypes, CoversContentType entry name

/-- What an accepted round makes of the lists of a policy. -/
theorem normalizeContentPolicy_lists {ids : List String} {policy rule : ContentPolicyRule}
    (h : normalizeContentPolicy ids policy = .ok rule) :
    rule.applicationIds = normalizeStringList policy.applicationIds ∧
      rule.buckets = normalizeBucketList policy.buckets ∧
      rule.prefixes = normalizePrefixList policy.prefixes ∧
      rule.contentTypes = normalizeContentTypeList policy.contentTypes := by
  unfold normalizeContentPolicy at h
  dsimp only at h
  split at h
  · cases h
  split at h
  · cases h
  split at h
  · cases h
  split at h
  · cases h
  · obtain rfl := Except.ok.inj h
    exact ⟨rfl, rfl, rfl, rfl⟩

theorem withinPolicy_normalize {ids : List String} {policy rule : ContentPolicyRule}
    (h : normalizeContentPolicy ids policy = .ok rule) : WithinPolicy policy rule := by
  obtain ⟨happlications, hbuckets, hprefixes, htypes⟩ := normalizeContentPolicy_lists h
  have hlower : ∀ {entries : List String}, (∃ entry ∈ entries, trim entry ≠ "") →
      normalizeListFrom (fun value => toAsciiLowercase (trim value)) [] entries ≠ [] :=
    fun ⟨entry, hmem, hne⟩ => normalizeListFrom_ne_nil
      ⟨entry, hmem, fun hblank => hne (toAsciiLowercase_eq_empty.mp hblank)⟩
  constructor <;> intro hentry applicationId bucket key contentType hmatch <;>
    simp only [contentPolicyMatches, Bool.and_eq_true, Bool.or_eq_true, happlications, hbuckets,
      hprefixes, htypes, List.isEmpty_iff] at hmatch <;>
    obtain ⟨⟨⟨⟨-, happlication⟩, hbucket⟩, hprefix⟩, htype⟩ := hmatch
  case applications =>
    obtain ⟨id, rfl, hid⟩ := (Option.any_eq_true _ _).mp
      (happlication.resolve_left (normalizeListFrom_ne_nil hentry))
    obtain ⟨entry, hmem, rfl⟩ := exists_of_mem_normalizeListFrom (of_decide_eq_true hid)
    exact ⟨entry, hmem, rfl⟩
  case buckets =>
    exact exists_namesBucket (of_decide_eq_true (hbucket.resolve_left (hlower hentry)))
  case prefixes =>
    obtain ⟨pre, hpre, hstrip⟩ := List.any_eq_true.mp
      (Or.resolve_left hprefix (normalizeListFrom_ne_nil hentry))
    obtain ⟨entry, hmem, rfl, -⟩ := exists_scopeOf hpre
    obtain ⟨rest, hrest⟩ := Option.isSome_iff_exists.mp hstrip
    exact ⟨entry, hmem, rest, eq_append_of_stripPrefix hrest⟩
  case contentTypes => exact coversContentType_of_matches (hlower hentry) htype

/-! ## Section 6: Normalization keeps scopes -/

/-- A list with an entry that stands for something confines after an update what it confined
before: requests to the buckets and keys that its entries stand for, and policies to the
objects that theirs stand for. -/
theorem normalization_keeps_scopes (raw : DataPlaneApplicationPermissions)
    (policies rules : List ContentPolicyRule)
    (hpolicies : normalizeContentPolicies policies = .ok rules) :
    ((∃ entry ∈ raw.allowedBuckets, trim entry ≠ "") →
      WithinBuckets raw.allowedBuckets (normalizeDataPlaneApplicationPermissions (some raw))) ∧
    ((∃ entry ∈ raw.allowedPrefixes, scopeOf entry ≠ "") →
      WithinPrefixes raw.allowedPrefixes (normalizeDataPlaneApplicationPermissions (some raw))) ∧
    List.Forall₂ WithinPolicy policies rules :=
  ⟨withinBuckets_normalize raw, withinPrefixes_normalize raw,
    (forall₂_normalizeDistinct hpolicies).imp fun _ _ ⟨_, hround⟩ => withinPolicy_normalize hround⟩

/-- The permissions of an application that may do anything within two lists. -/
def confinedTo (buckets prefixes : List String) : DataPlaneApplicationPermissions where
  listBuckets := true
  listObjects := true
  readObject := true
  writeObject := true
  deleteObject := true
  allowedBuckets := buckets
  allowedPrefixes := prefixes

/-- An enabled policy for the keys under one prefix. -/
def policyUnder (pre : String) : ContentPolicyRule where
  id := "archive"
  label := none
  enabled := true
  applicationIds := []
  buckets := []
  prefixes := [pre]
  contentTypes := []
  encryptionProfileId := none
  syncTargets := []
  fallbackReadOrder := []

theorem normalization_keeps_scopes_one_team :
    WithinBuckets [" Docs ", ""]
        (normalizeDataPlaneApplicationPermissions (some (confinedTo [" Docs ", ""] ["/team/"]))) ∧
      WithinPrefixes ["/team/"]
        (normalizeDataPlaneApplicationPermissions (some (confinedTo [" Docs ", ""] ["/team/"]))) ∧
      List.Forall₂ WithinPolicy [policyUnder "team/"]
        [{ policyUnder "team/" with prefixes := ["team"] }] := by
  obtain ⟨hbuckets, hprefixes, hpolicies⟩ := normalization_keeps_scopes
    (confinedTo [" Docs ", ""] ["/team/"]) [policyUnder "team/"]
    [{ policyUnder "team/" with prefixes := ["team"] }] (by decide)
  exact ⟨hbuckets (by decide), hprefixes (by decide), hpolicies⟩

/-- A listing may ask for less than an entry; lists of entries that stand for nothing confine
nothing; and the prefix of a policy is a prefix of characters, not of path segments. -/
theorem scopes_widened :
    (dataPlanePermissionAllowed
        (normalizeDataPlaneApplicationPermissions (some (confinedTo ["docs"] ["team"])))
        .listObjects (some "docs") (some "te") = true ∧
      ¬ ∃ entry ∈ ["team"], CoversKey entry "te") ∧
    (dataPlanePermissionAllowed
        (normalizeDataPlaneApplicationPermissions (some (confinedTo [" "] ["/"])))
        .readObject (some "private") (some "k") = true ∧
      (¬ ∃ entry ∈ [" "], NamesBucket entry "private") ∧ ¬ ∃ entry ∈ ["/"], CoversKey entry "k") ∧
    (∃ rule, normalizeContentPolicy [] (policyUnder "team/") = .ok rule ∧
      contentPolicyMatches rule none "docs" "teams" none = true ∧
      ¬ ∃ entry ∈ (policyUnder "team/").prefixes, CoversKey entry "teams") := by
  refine ⟨by decide, by decide, { policyUnder "team/" with prefixes := ["team"] }, ?_, ?_, ?_⟩
  · decide
  · decide
  · decide

end Netdisk2Blob.ControlPlane
