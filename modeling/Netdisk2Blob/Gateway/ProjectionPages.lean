import Netdisk2Blob.Gateway.Pagination

/-!
# The Pages of One List

`list_objects_v2_projection` called again and again on the same objects, each time with the token
that the call before returned.

## Contents

- `PagesFrom`: the pages until a call returns no token
- `pageOf_eq_of_filter`: a page depends on the entries behind the marker alone
- `exists_pagesFrom`: the calls come to an end, and their pages are the entries in order
- `ProjectionPages`: what is expected of the pages; `projection_pages` is the proof, and
  `flat_pages_keep_other_keys` says why the expected keys depend on the delimiter
-/

namespace Netdisk2Blob.Gateway

open Library Blob ListingState

/-! ## Section 1: Following the tokens -/

/-- The pages of a call that is repeated with the returned token until there is none. -/
inductive PagesFrom (call : Option String → ListObjectsV2Page) :
    Option String → List ListObjectsV2Page → Prop where
  | last {marker : Option String} (hlast : (call marker).nextContinuationToken = none) :
      PagesFrom call marker [call marker]
  | next {marker : Option String} {token : String} {pages : List ListObjectsV2Page}
      (htoken : (call marker).nextContinuationToken = some token)
      (hrest : PagesFrom call (some token) pages) : PagesFrom call marker (call marker :: pages)

/-- The calls give one sequence of pages. -/
theorem PagesFrom.unique {call : Option String → ListObjectsV2Page} {marker : Option String}
    {pages pages' : List ListObjectsV2Page} (h : PagesFrom call marker pages)
    (h' : PagesFrom call marker pages') : pages = pages' := by
  induction h generalizing pages' with
  | last hlast =>
      cases h' with
      | last _ => rfl
      | next htoken' _ =>
          rw [hlast] at htoken'
          cases htoken'
  | next htoken _ ih =>
      cases h' with
      | last hlast' =>
          rw [htoken] at hlast'
          cases hlast'
      | next htoken' hrest' =>
          obtain rfl := Option.some.inj (htoken.symm.trans htoken')
          rw [ih hrest']

/-! ## Section 2: Cutting pages -/

section Cutting

variable {entries rest : List ListObjectsV2Entry} {marker : Option String} {maxKeys : Nat}

/-- The page that is cut from the front of the entries behind the marker. -/
def frontPage (rest : List ListObjectsV2Entry) (maxKeys : Nat) : ListObjectsV2Page where
  objects := (rest.take maxKeys).filterMap ListObjectsV2Entry.object?
  commonPrefixes := (rest.take maxKeys).filterMap ListObjectsV2Entry.commonPrefix?
  nextContinuationToken :=
    if decide (maxKeys < rest.length) then (rest[maxKeys - 1]?).map (·.sortKey) else none
  isTruncated := decide (maxKeys < rest.length)

theorem pageOf_eq_of_filter (h : entries.filter (behindMarker marker) = rest) :
    pageOf entries marker maxKeys = frontPage rest maxKeys := by
  subst h
  rfl

/-- What stands behind the last entry of a full page is the rest of the entries. -/
theorem frontPage_token (hpos : 0 < maxKeys) (hmore : maxKeys < rest.length) :
    ∃ before entry, rest = before ++ entry :: rest.drop maxKeys ∧
      (frontPage rest maxKeys).nextContinuationToken = some entry.sortKey := by
  obtain ⟨n, rfl⟩ : ∃ n, maxKeys = n + 1 := ⟨maxKeys - 1, by omega⟩
  have hn : n < rest.length := by omega
  refine ⟨rest.take n, rest.get ⟨n, hn⟩, ?_, ?_⟩
  · rw [List.get_eq_getElem, ← List.drop_eq_getElem_cons, List.take_append_drop]
  · show (if decide (n + 1 < rest.length) then _ else _) = _
    rw [if_pos (decide_eq_true hmore), Nat.add_sub_cancel, List.getElem?_eq_getElem hn]
    rfl

theorem frontPage_token_eq_none (hfits : rest.length ≤ maxKeys) :
    (frontPage rest maxKeys).nextContinuationToken = none := by
  show (if decide (maxKeys < rest.length) then _ else _) = _
  rw [if_neg (by simpa using hfits)]

theorem frontPage_isTruncated :
    (frontPage rest maxKeys).isTruncated = decide (maxKeys < rest.length) := rfl

/-- The entries of a page show the page. -/
theorem shown_perm (entries : List ListObjectsV2Entry) :
    ((entries.filterMap ListObjectsV2Entry.object?).map (fun object => Shown.content object.key) ++
      (entries.filterMap ListObjectsV2Entry.commonPrefix?).map Shown.commonPrefix).Perm
        (entries.map ListObjectsV2Entry.shown) := by
  induction entries with
  | nil => exact List.Perm.refl _
  | cons entry entries ih =>
      cases entry with
      | object info => exact ih.cons (Shown.content info.key)
      | commonPrefix text => exact List.perm_middle.trans (ih.cons (Shown.commonPrefix text))

theorem frontPage_shown :
    (frontPage rest maxKeys).shown.Perm ((rest.take maxKeys).map ListObjectsV2Entry.shown) :=
  shown_perm (rest.take maxKeys)

theorem frontPage_length :
    (frontPage rest maxKeys).objects.length + (frontPage rest maxKeys).commonPrefixes.length ≤
      maxKeys := by
  have hlength := (@frontPage_shown rest maxKeys).length_eq
  rw [ListObjectsV2Page.shown, List.length_append, List.length_map, List.length_map,
    List.length_map, List.length_take] at hlength
  rw [hlength]
  exact Nat.min_le_left _ _

theorem frontPage_texts (h : SortedBy ListObjectsV2Entry.sortKey rest) :
    (frontPage rest maxKeys).texts = (rest.take maxKeys).map ListObjectsV2Entry.sortKey := by
  have hpage : pageOf rest none maxKeys = frontPage rest maxKeys :=
    pageOf_eq_of_filter filter_behindMarker_none
  rw [← hpage, texts_pageOf h, pageEntries_none]

/-- **The calls come to an end.** From a marker that leaves `rest` behind it, the pages show `rest`
in order, in pages of at most `maxKeys` entries, and the last page alone is not truncated. -/
theorem exists_pagesFrom (hsorted : SortedBy ListObjectsV2Entry.sortKey entries)
    (hpos : 0 < maxKeys) (hrest : entries.filter (behindMarker marker) = rest) :
    ∃ pages, PagesFrom (fun marker => pageOf entries marker maxKeys) marker pages ∧
      (pages.flatMap ListObjectsV2Page.shown).Perm (rest.map ListObjectsV2Entry.shown) ∧
      pages.flatMap ListObjectsV2Page.texts = rest.map ListObjectsV2Entry.sortKey ∧
      (∀ page ∈ pages, page.objects.length + page.commonPrefixes.length ≤ maxKeys ∧
        ∀ object ∈ page.objects, ListObjectsV2Entry.object object ∈ rest) ∧
      (∀ page ∈ pages.dropLast, page.isTruncated = true) ∧
      ∃ page, pages.getLast? = some page ∧ page.isTruncated = false := by
  -- the induction is on the number of entries behind the marker
  induction hlength : rest.length using Nat.strong_induction_on generalizing rest marker with
  | _ n ih =>
      have hpage : pageOf entries marker maxKeys = frontPage rest maxKeys :=
        pageOf_eq_of_filter hrest
      have hsortedRest : SortedBy ListObjectsV2Entry.sortKey rest :=
        hrest ▸ hsorted.sublist List.filter_sublist
      have hown : ∀ object ∈ (frontPage rest maxKeys).objects,
          ListObjectsV2Entry.object object ∈ rest := by
        intro object hobject
        obtain ⟨entry, hentry, hsame⟩ := List.mem_filterMap.mp hobject
        cases entry with
        | object info =>
            obtain rfl := Option.some.inj hsame
            exact List.mem_of_mem_take hentry
        | commonPrefix text => cases hsame
      by_cases hmore : maxKeys < rest.length
      · -- a full page: what is behind its token is what the page leaves
        obtain ⟨before, entry, hsplit, htoken⟩ := frontPage_token hpos hmore
        have hbehind : entries.filter (behindMarker (some entry.sortKey)) = rest.drop maxKeys := by
          -- behind the larger token and behind the old marker is the same
          have hinside : entries.filter (behindMarker (some entry.sortKey)) =
              rest.filter (behindMarker (some entry.sortKey)) := by
            rw [← hrest, List.filter_filter]
            refine List.filter_congr ?_
            intro other _
            have hentry : entry ∈ rest := by
              rw [hsplit]
              exact List.mem_append_right _ List.mem_cons_self
            rw [← hrest] at hentry
            have hmarker := (List.mem_filter.mp hentry).2
            cases marker with
            | none => simp [behindMarker]
            | some marker =>
                have hlt : marker < entry.sortKey := of_decide_eq_true hmarker
                by_cases hother : entry.sortKey < other.sortKey
                · simp [behindMarker, hother, hlt.trans hother]
                · simp [behindMarker, hother]
          have hgt := (hsplit ▸ hsortedRest :
            SortedBy ListObjectsV2Entry.sortKey (before ++ entry :: rest.drop maxKeys)).filter_gt
          rw [← hsplit] at hgt
          exact hinside.trans hgt
        have hless : (rest.drop maxKeys).length < n := by
          rw [List.length_drop]
          omega
        obtain ⟨pages, hpages, hshown, htexts, hsizes, htruncated, last, hlast, hended⟩ :=
          ih _ hless hbehind rfl
        have htoken' : (pageOf entries marker maxKeys).nextContinuationToken =
            some entry.sortKey := by
          rw [hpage]
          exact htoken
        have hpagesNe : pages ≠ [] := by
          intro hnil
          rw [hnil] at hlast
          cases hlast
        refine ⟨_, .next htoken' hpages, ?_, ?_, ?_, ?_, last, ?_, hended⟩
        · rw [List.flatMap_cons, hpage]
          refine (frontPage_shown.append hshown).trans ?_
          rw [← List.map_append, List.take_append_drop]
        · rw [List.flatMap_cons, hpage, frontPage_texts hsortedRest, htexts, ← List.map_append,
            List.take_append_drop]
        · intro page hmem
          rcases List.mem_cons.mp hmem with rfl | hmem
          · rw [hpage]
            exact ⟨frontPage_length, hown⟩
          · obtain ⟨hsize, hobjects⟩ := hsizes page hmem
            exact ⟨hsize, fun object hobject => List.mem_of_mem_drop (hobjects object hobject)⟩
        · rw [List.dropLast_cons_of_ne_nil hpagesNe]
          intro page hmem
          rcases List.mem_cons.mp hmem with rfl | hmem
          · rw [hpage, frontPage_isTruncated, decide_eq_true hmore]
          · exact htruncated page hmem
        · rw [List.getLast?_cons, hlast]
          rfl
      · -- everything that is left stands on one page
        have hfits : rest.length ≤ maxKeys := Nat.le_of_not_lt hmore
        have htake : rest.take maxKeys = rest := List.take_of_length_le hfits
        have htoken : (pageOf entries marker maxKeys).nextContinuationToken = none := by
          rw [hpage]
          exact frontPage_token_eq_none hfits
        refine ⟨_, .last htoken, ?_, ?_, ?_, ?_, _, rfl, ?_⟩
        · rw [List.flatMap_singleton, hpage]
          have hshown := @frontPage_shown rest maxKeys
          rw [htake] at hshown
          exact hshown
        · rw [List.flatMap_singleton, hpage, frontPage_texts hsortedRest, htake]
        · intro page hmem
          obtain rfl := List.mem_singleton.mp hmem
          rw [hpage]
          exact ⟨frontPage_length, hown⟩
        · intro page hmem
          cases hmem
        · show (pageOf entries marker maxKeys).isTruncated = false
          rw [hpage, frontPage_isTruncated, decide_eq_false hmore]

end Cutting

/-! ## Section 3: The pages of the projection -/

/-- The text under which something is shown. -/
def Shown.text : Shown → String
  | .content key => key
  | .commonPrefix text => text

theorem text_shown (entry : ListObjectsV2Entry) : entry.shown.text = entry.sortKey := by
  cases entry <;> rfl

/-- What is expected of the pages: they show each listed key, or its common prefix, on one page,
in increasing order and at most `maxKeys` of them on a page, and the last page alone is not
truncated. -/
structure ProjectionPages (objects : List ObjectInfo) (pre : String) (delimiter : Option String)
    (maxKeys : Nat) (listed : String → Prop) (pages : List ListObjectsV2Page) : Prop where
  calls : PagesFrom
    (fun marker => listObjectsV2Projection objects pre delimiter marker maxKeys) none pages
  shown_iff : ∀ shown, shown ∈ pages.flatMap ListObjectsV2Page.shown ↔
    ∃ object ∈ objects, listed object.key ∧ shownAs pre delimiter object.key = shown
  once : (pages.flatMap ListObjectsV2Page.shown).Nodup
  own : ∀ page ∈ pages, ∀ object ∈ page.objects, object ∈ objects
  size_le : ∀ page ∈ pages, page.objects.length + page.commonPrefixes.length ≤ maxKeys
  increasing : (pages.flatMap ListObjectsV2Page.texts).Pairwise (· < ·)
  truncated : ∀ page ∈ pages.dropLast, page.isTruncated = true
  ended : ∃ page, pages.getLast? = some page ∧ page.isTruncated = false

section Projection

variable {objects : List ObjectInfo} {pre : String} {delimiter : Option String} {maxKeys : Nat}

/-- The keys that the projection lists: with a delimiter those with the prefix, else all. -/
def Listed (pre : String) (delimiter : Option String) (key : String) : Prop :=
  isDelimited delimiter = true → startsWith key pre = true

/-- With a delimiter, keys without the prefix make no entries. -/
theorem entriesOf_filter {text : String}
    (hdelimiter : delimiter.filter (fun value => decide (value ≠ "")) = some text) :
    entriesOf objects pre delimiter =
      entriesOf (objects.filter fun object => startsWith object.key pre) pre delimiter := by
  have htwice : (objects.filter fun object => startsWith object.key pre).filter
      (fun object => startsWith object.key pre) =
        objects.filter fun object => startsWith object.key pre := by
    rw [List.filter_eq_self]
    intro object hobject
    exact (List.mem_filter.mp hobject).2
  unfold entriesOf
  rw [hdelimiter]
  simp only [childrenOf, commonPrefixesOf, htwice]

theorem isDelimited_iff :
    isDelimited delimiter = true ↔
      ∃ text, delimiter.filter (fun value => decide (value ≠ "")) = some text := by
  cases delimiter with
  | none => simp [isDelimited]
  | some value => simp [isDelimited, Option.filter_some]

theorem mem_shown_entriesOf {shown : Shown} :
    shown ∈ (entriesOf objects pre delimiter).map ListObjectsV2Entry.shown ↔
      ∃ object ∈ objects, Listed pre delimiter object.key ∧
        shownAs pre delimiter object.key = shown := by
  rw [List.mem_map]
  cases hdelimiter : delimiter.filter (fun value => decide (value ≠ "")) with
  | none =>
      have hflat : isDelimited delimiter = false := by
        rw [Bool.eq_false_iff, ne_eq, isDelimited_iff]
        rintro ⟨text, htext⟩
        rw [hdelimiter] at htext
        cases htext
      have hperm :=
        List.perm_insertionSort (fun left right : ObjectInfo => left.key ≤ right.key) objects
      unfold entriesOf shownAs Listed
      simp only [hdelimiter, hflat, Bool.false_eq_true, false_implies, true_and]
      constructor
      · rintro ⟨entry, hentry, rfl⟩
        obtain ⟨object, hobject, rfl⟩ := List.mem_map.mp hentry
        exact ⟨object, hperm.mem_iff.mp hobject, rfl⟩
      · rintro ⟨object, hobject, rfl⟩
        exact ⟨_, List.mem_map_of_mem (hperm.mem_iff.mpr hobject), rfl⟩
  | some text =>
      have hdelimited : isDelimited delimiter = true := isDelimited_iff.mpr ⟨text, hdelimiter⟩
      rw [entriesOf_filter hdelimiter, mem_entriesOf_shown ?_]
      · simp only [List.mem_filter, Listed, hdelimited, true_implies, and_assoc]
      · intro object hobject
        exact (List.mem_filter.mp hobject).2

/-- The objects among the entries are objects of the list. -/
theorem mem_of_object_mem_entriesOf {object : ObjectInfo}
    (h : ListObjectsV2Entry.object object ∈ entriesOf objects pre delimiter) :
    object ∈ objects := by
  unfold entriesOf at h
  split at h
  · obtain ⟨other, hother, hsame⟩ := List.mem_map.mp h
    obtain rfl := ListObjectsV2Entry.object.inj hsame
    exact (List.perm_insertionSort _ objects).mem_iff.mp hother
  · rw [(List.perm_insertionSort _ _).mem_iff, List.mem_append] at h
    rcases h with h | h
    · obtain ⟨other, hother, hsame⟩ := List.mem_map.mp h
      obtain rfl := ListObjectsV2Entry.object.inj hsame
      exact List.mem_of_mem_filter (List.mem_of_mem_filter hother)
    · obtain ⟨text, -, hsame⟩ := List.mem_map.mp h
      cases hsame

/-- **The pages of the projection.** The calls on a duplicate-free list end, and their pages show
every listed key once. -/
theorem projection_pages (objects : List ObjectInfo) (pre : String) (delimiter : Option String)
    (maxKeys : Nat) (hnodup : (keysOf objects).Nodup) (hpos : 1 ≤ maxKeys) :
    ∃ pages, ProjectionPages objects pre delimiter maxKeys (Listed pre delimiter) pages := by
  have hsorted : SortedBy ListObjectsV2Entry.sortKey (entriesOf objects pre delimiter) :=
    entriesOf_sorted hnodup
  obtain ⟨pages, hpages, hshown, htexts, hsizes, htruncated, hended⟩ :=
    exists_pagesFrom hsorted hpos filter_behindMarker_none
  have hcall : (fun marker => listObjectsV2Projection objects pre delimiter marker maxKeys) =
      fun marker => pageOf (entriesOf objects pre delimiter) marker maxKeys := by
    funext marker
    exact projection_eq
  refine ⟨pages, ?_, ?_, ?_, ?_, ?_, ?_, htruncated, hended⟩
  · rw [hcall]
    exact hpages
  · intro shown
    rw [hshown.mem_iff]
    exact mem_shown_entriesOf
  · -- what is shown twice would be shown under one text
    rw [hshown.nodup_iff]
    refine List.Nodup.of_map Shown.text ?_
    have htext : Shown.text ∘ ListObjectsV2Entry.shown = ListObjectsV2Entry.sortKey :=
      funext text_shown
    rw [List.map_map, htext]
    exact (List.pairwise_map.mpr hsorted).imp (fun hlt => hlt.ne)
  · intro page hpage object hobject
    exact mem_of_object_mem_entriesOf ((hsizes page hpage).2 object hobject)
  · exact fun page hpage => (hsizes page hpage).1
  · rw [htexts]
    exact List.pairwise_map.mpr hsorted

/-- Two keys under a delimiter of two characters that also stands in the prefix. -/
theorem projection_pages_longDelimiter :
    ∃ pages, ProjectionPages [storedObject "a--b--c", storedObject "a--d"] "a--" (some "--") 1
      (Listed "a--" (some "--")) pages :=
  projection_pages _ _ _ 1 (by decide) (by decide)

/-- **Without a delimiter the keys are not compared with the prefix.** The pages then show a key
that does not start with it. -/
theorem flat_pages_keep_other_keys :
    ¬ ∃ pages, ProjectionPages [storedObject "a", storedObject "b"] "a" none 2
      (fun key => startsWith key "a" = true) pages := by
  rintro ⟨pages, hpages⟩
  have hone : PagesFrom (fun marker =>
      listObjectsV2Projection [storedObject "a", storedObject "b"] "a" none marker 2) none
      [⟨[storedObject "a", storedObject "b"], [], none, false⟩] := by
    have hcall : listObjectsV2Projection [storedObject "a", storedObject "b"] "a" none none 2 =
        ⟨[storedObject "a", storedObject "b"], [], none, false⟩ := by
      decide
    have hlast := @PagesFrom.last (fun marker =>
      listObjectsV2Projection [storedObject "a", storedObject "b"] "a" none marker 2) none
      (congrArg (·.nextContinuationToken) hcall)
    simp only [hcall] at hlast
    exact hlast
  obtain rfl := hpages.calls.unique hone
  obtain ⟨object, hobject, hstarts, hshown⟩ := (hpages.shown_iff (.content "b")).mp (by decide)
  have hkey : object.key = "b" := by
    injection hshown
  rw [hkey] at hstarts
  exact absurd hstarts (by decide)

end Projection

end Netdisk2Blob.Gateway
