import Netdisk2Blob.Providers.OneDrive

/-!
# OneDrive Paths

Where a path URL leads once its dot segments are resolved, and for which containers and
keys an object is found again below its container and listed under its key.

## Contents

- `objectSegments`, `objectPath_eq_ok`: the segments of an object path
- `addressed_plain`, `addressed_shape`: the place that an item URL addresses
- `putObject_spec`: what an accepted upload has written
- `faithful_iff`: the paths are faithful exactly for keys in normal form without dot
  segments on the way
-/

namespace Netdisk2Blob.Providers.OneDrive

open Library Text Library.UrlPaths Library.FileTree Blob

variable {B : Type} {config : OneDriveConfig}

/-! ## Section 1: Segments of a path -/

/-- The segments of the root prefix. -/
def prefixSegments (config : OneDriveConfig) : List String :=
  (config.rootPrefix.map nonEmptySegments).getD []

/-- The segments of the folder of a container. -/
def containerSegments (config : OneDriveConfig) (container : String) : List String :=
  prefixSegments config ++ nonEmptySegments container

/-- The segments of an object path. -/
def objectSegments (config : OneDriveConfig) (container key : String) : List String :=
  containerSegments config container ++ nonEmptySegments key

theorem areSegments_prefixSegments : AreSegments (prefixSegments config) := by
  unfold prefixSegments
  cases config.rootPrefix with
  | none => exact fun _ h => absurd h List.not_mem_nil
  | some value => exact areSegments_nonEmptySegments value

theorem areSegments_containerSegments (container : String) :
    AreSegments (containerSegments config container) :=
  areSegments_append.mpr ⟨areSegments_prefixSegments, areSegments_nonEmptySegments container⟩

theorem areSegments_objectSegments (container key : String) :
    AreSegments (objectSegments config container key) :=
  areSegments_append.mpr
    ⟨areSegments_containerSegments container, areSegments_nonEmptySegments key⟩

/-- Joined parts joined again, the empty ones left out, are the segments joined. -/
theorem joinKey_filter_map_joinKey {parts : List (List String)}
    (h : ∀ part ∈ parts, AreSegments part) :
    joinKey ((parts.map joinKey).filter (fun part => decide (part ≠ ""))) =
      joinKey parts.flatten := by
  induction parts with
  | nil => rfl
  | cons part parts ih =>
    obtain ⟨hpart, hparts⟩ := List.forall_mem_cons.mp h
    rw [List.map_cons, List.filter_cons, List.flatten_cons]
    by_cases hempty : part = []
    · subst hempty
      rw [joinKey_nil, if_neg (by simp), ih hparts, List.nil_append]
    · have hjoin : joinKey part ≠ "" := fun hjoin => hempty ((joinKey_eq_empty hpart).mp hjoin)
      rw [if_pos (by simpa using hjoin)]
      by_cases hrest : parts.flatten = []
      · have hnone : (parts.map joinKey).filter (fun part => decide (part ≠ "")) = [] := by
          rw [List.filter_eq_nil_iff]
          intro joined hjoined
          obtain ⟨other, hother, rfl⟩ := List.mem_map.mp hjoined
          rw [List.flatten_eq_nil_iff.mp hrest other hother, joinKey_nil]
          simp
        rw [hnone, hrest, List.append_nil, joinKey_singleton]
      · have hsome : (parts.map joinKey).filter (fun part => decide (part ≠ "")) ≠ [] := by
          intro hnone
          have hjoined := ih hparts
          rw [hnone, joinKey_nil] at hjoined
          have hall : AreSegments parts.flatten := by
            intro segment hsegment
            obtain ⟨other, hother, hmem⟩ := List.mem_flatten.mp hsegment
            exact hparts other hother segment hmem
          exact hrest ((joinKey_eq_empty hall).mp hjoined.symm)
        rw [← List.singleton_append, joinKey_append (List.cons_ne_nil _ _) hsome, ih hparts,
          joinKey_singleton, joinKey_append hempty hrest]

theorem filter_normalizedRootPrefix (config : OneDriveConfig) (rest : List String) :
    ((normalizedRootPrefix config).toList ++ rest).filter (fun part => decide (part ≠ "")) =
      (joinKey (prefixSegments config) :: rest).filter (fun part => decide (part ≠ "")) := by
  unfold normalizedRootPrefix prefixSegments
  cases config.rootPrefix with
  | none => simp [joinKey_nil]
  | some value =>
    simp only [Option.map_some, Option.getD_some, normalizePath]
    by_cases hempty : joinKey (nonEmptySegments value) = ""
    · simp [Option.filter, hempty]
    · simp [Option.filter, hempty]

theorem containerPath_eq_ok {container path : String} :
    containerPath config container = .ok path ↔
      trim container ≠ "" ∧ path = joinKey (containerSegments config container) := by
  have hjoin := @joinKey_filter_map_joinKey
    [prefixSegments config, nonEmptySegments container] (by
      intro part hpart
      simp only [List.mem_cons, List.not_mem_nil, or_false] at hpart
      rcases hpart with rfl | rfl
      · exact areSegments_prefixSegments
      · exact areSegments_nonEmptySegments container)
  have hparts := (congrArg joinKey
    (filter_normalizedRootPrefix config [normalizePath container])).trans hjoin
  simp only [List.flatten_cons, List.flatten_nil, List.append_nil] at hparts
  simp only [containerPath, hparts]
  rw [except_bind_ok]
  constructor
  · rintro ⟨_, hcontainer, hpath⟩
    exact ⟨ensureNonEmpty_eq_ok.mp hcontainer, (Except.ok.inj hpath).symm⟩
  · rintro ⟨hcontainer, rfl⟩
    exact ⟨(), ensureNonEmpty_eq_ok.mpr hcontainer, rfl⟩

theorem objectPath_eq_ok {container key path : String} :
    objectPath config container key = .ok path ↔
      trim container ≠ "" ∧ trim key ≠ "" ∧
        path = joinKey (objectSegments config container key) := by
  have hjoin := @joinKey_filter_map_joinKey
    [prefixSegments config, nonEmptySegments container, nonEmptySegments key] (by
      intro part hpart
      simp only [List.mem_cons, List.not_mem_nil, or_false] at hpart
      rcases hpart with rfl | rfl | rfl
      · exact areSegments_prefixSegments
      · exact areSegments_nonEmptySegments container
      · exact areSegments_nonEmptySegments key)
  have hparts := (congrArg joinKey (filter_normalizedRootPrefix config
    [normalizePath container, normalizePath key])).trans hjoin
  simp only [List.flatten_cons, List.flatten_nil, List.append_nil, ← List.append_assoc] at hparts
  simp only [objectPath, hparts]
  rw [except_bind_ok]
  constructor
  · rintro ⟨_, hcontainer, hrest⟩
    obtain ⟨_, hkey, hpath⟩ := except_bind_ok.mp hrest
    exact ⟨ensureNonEmpty_eq_ok.mp hcontainer, ensureNonEmpty_eq_ok.mp hkey,
      (Except.ok.inj hpath).symm⟩
  · rintro ⟨hcontainer, hkey, rfl⟩
    refine ⟨(), ensureNonEmpty_eq_ok.mpr hcontainer, ?_⟩
    exact except_bind_ok.mpr ⟨(), ensureNonEmpty_eq_ok.mpr hkey, rfl⟩

theorem normalizePath_joinKey {segments : List String} (h : AreSegments segments) :
    normalizePath (joinKey segments) = joinKey segments := by
  rw [normalizePath, nonEmptySegments_joinKey h]

/-! ## Section 2: What a URL addresses -/

/-- The segments of an item URL after `root:`. -/
def urlSegments (names : List String) (last : String) : List String :=
  names.map percentEncode ++ [percentEncode last ++ ":"]

theorem toList_append_colon (s : String) : (s ++ ":").toList = s.toList ++ [':'] := by simp

theorem split_pathItemUrl {names : List String} {last : String}
    (h : AreSegments (names ++ [last])) :
    split '/' (pathItemUrl (joinKey (names ++ [last]))) = "root:" :: urlSegments names last := by
  have hne : joinKey (names ++ [last]) ≠ "" := by
    intro hempty
    have hnil := (joinKey_eq_empty h).mp hempty
    simp at hnil
  have hurl : pathItemUrl (joinKey (names ++ [last])) =
      joinKey ("root:" :: urlSegments names last) := by
    rw [pathItemUrl, normalizePath_joinKey h, if_neg hne, encodePath, nonEmptySegments_joinKey h,
      List.map_append, List.map_singleton]
    have hroot : joinKey ("root:" :: urlSegments names last) =
        "root:" ++ "/" ++ joinKey (urlSegments names last) := by
      rw [← List.singleton_append, joinKey_append (List.cons_ne_nil _ _) (by simp [urlSegments]),
        joinKey_singleton]
    rw [hroot, urlSegments]
    cases hnames : names.map percentEncode with
    | nil =>
      rw [List.nil_append, List.nil_append, joinKey_singleton, joinKey_singleton,
        String.append_assoc, String.append_assoc]
      rfl
    | cons first rest =>
      rw [joinKey_append (List.cons_ne_nil _ _) (List.cons_ne_nil _ _),
        joinKey_append (List.cons_ne_nil _ _) (List.cons_ne_nil _ _), joinKey_singleton,
        joinKey_singleton]
      simp only [String.append_assoc]
      rfl
  rw [hurl]
  apply split_joinKey_segments (List.cons_ne_nil _ _)
  intro segment hsegment
  rcases List.mem_cons.mp hsegment with rfl | hsegment
  · decide
  · rcases List.mem_append.mp hsegment with hsegment | hsegment
    · obtain ⟨name, -, rfl⟩ := List.mem_map.mp hsegment
      exact not_mem_percentEncode (Or.inl rfl)
    · obtain rfl := List.mem_singleton.mp hsegment
      rw [toList_append_colon]
      intro hmem
      rcases List.mem_append.mp hmem with hmem | hmem
      · exact not_mem_percentEncode (Or.inl rfl) hmem
      · exact absurd (List.mem_singleton.mp hmem) (by decide)

theorem stripColon_append (s : String) : stripColon (s ++ ":") = some s := by
  rw [stripColon, toList_append_colon, if_pos (by simp)]
  simp

theorem mapM_percentDecode (names : List String) :
    (names.map percentEncode).mapM percentDecode = some names := by
  induction names with
  | nil => rfl
  | cons name names ih => simp [ih]

theorem namedPlace_urlSegments (names : List String) (last : String) :
    namedPlace (urlSegments names last) = some (names ++ [last]) := by
  rw [namedPlace, urlSegments, List.getLast?_concat, Option.bind_some, stripColon_append,
    Option.bind_some, List.dropLast_concat]
  have h := mapM_percentDecode (names ++ [last])
  rw [List.map_append, List.map_singleton] at h
  exact h

/-- The last segment of an item URL is no dot segment: it ends with a colon. -/
theorem isDotSegment_append_colon (s : String) : isDotSegment (s ++ ":") = false := by
  apply @isDotSegment_eq_false ':'
  · simp
  · decide

theorem isDotSegment_root : isDotSegment "root:" = false := isDotSegment_append_colon "root"

/-- A name that a URL library takes for a place on the way. -/
def IsDotName (name : String) : Prop := name = "." ∨ name = ".."

instance (name : String) : Decidable (IsDotName name) := inferInstanceAs (Decidable (_ ∨ _))

theorem isDotSegment_percentEncode_eq_false {name : String} :
    isDotSegment (percentEncode name) = false ↔ ¬ IsDotName name := by
  rw [← Bool.not_eq_true, isDotSegment_percentEncode]
  rfl

/-- Without dot names on the way, an item URL addresses the place that it spells. -/
theorem addressed_plain {names : List String} {last : String}
    (h : AreSegments (names ++ [last])) (hdots : ∀ name ∈ names, ¬ IsDotName name) :
    addressedPlace config (sentPath config (pathItemUrl (joinKey (names ++ [last])))) =
      some (names ++ [last]) := by
  have hplain : ∀ segment ∈ config.drivePath ++ "root:" :: urlSegments names last,
      isDotSegment segment = false := by
    intro segment hsegment
    rcases List.mem_append.mp hsegment with hsegment | hsegment
    · exact config.driveResolved segment hsegment
    · rcases List.mem_cons.mp hsegment with rfl | hsegment
      · exact isDotSegment_root
      · rcases List.mem_append.mp hsegment with hsegment | hsegment
        · obtain ⟨name, hname, rfl⟩ := List.mem_map.mp hsegment
          exact isDotSegment_percentEncode_eq_false.mpr (hdots name hname)
        · rw [List.mem_singleton.mp hsegment]
          exact isDotSegment_append_colon _
  rw [sentPath, split_pathItemUrl h, resolveDotSegments_of_forall_not_dot hplain, addressedPlace,
    if_pos (List.isPrefixOf_iff_prefix.mpr (List.prefix_append _ _)), List.drop_left]
  have hroot : ("root:" :: urlSegments names last) ≠ ["root"] := by
    intro heq
    exact absurd (List.cons.inj heq).1 (by decide)
  simp only [if_neg hroot, List.head?_cons, List.tail_cons, namedPlace_urlSegments, if_true]

/-- What an item URL addresses: dot names take names on the way away, the last name stays. -/
theorem addressed_shape {names place : List String} {last : String}
    (h : AreSegments (names ++ [last]))
    (haddressed : addressedPlace config
      (sentPath config (pathItemUrl (joinKey (names ++ [last])))) = some place) :
    ∃ way, place = way ++ [last] ∧ way.Sublist names ∧ ∀ name ∈ way, ¬ IsDotName name := by
  -- the last segment is kept by the URL library, and follows what is left of the others
  obtain ⟨kept, hkept⟩ : ∃ kept, kept = (config.drivePath ++ "root:" :: names.map percentEncode).foldl
      resolveSegment [] := ⟨_, rfl⟩
  have hsublist : kept.Sublist (config.drivePath ++ "root:" :: names.map percentEncode) := by
    rw [hkept]
    exact resolve_sublist _ []
  have hnotDot : ∀ segment ∈ kept, isDotSegment segment = false := by
    intro segment hsegment
    rw [hkept] at hsegment
    exact (not_dot_of_mem_resolve hsegment).resolve_left List.not_mem_nil
  have hsent : sentPath config (pathItemUrl (joinKey (names ++ [last]))) =
      kept ++ [percentEncode last ++ ":"] := by
    rw [sentPath, split_pathItemUrl h, urlSegments, ← List.cons_append, ← List.append_assoc,
      resolveDotSegments, List.foldl_append, ← hkept, List.foldl_cons, List.foldl_nil,
      resolveSegment_of_not_dot (isDotSegment_append_colon _)]
  rw [hsent, addressedPlace] at haddressed
  split at haddressed
  · rename_i hprefix
    obtain ⟨resource, hresource⟩ := List.isPrefixOf_iff_prefix.mp hprefix
    rw [← hresource, List.drop_left] at haddressed
    dsimp only at haddressed
    have hlast : resource.getLast? = some (percentEncode last ++ ":") ∨ resource = [] := by
      by_cases hempty : resource = []
      · exact Or.inr hempty
      · left
        have hend := congrArg List.getLast? hresource
        rw [List.getLast?_append_of_ne_nil _ hempty, List.getLast?_concat] at hend
        exact hend
    split at haddressed
    · -- the URL of the drive root does not end with a colon
      rename_i hroot
      rcases hlast with hlast | hempty
      · rw [hroot, List.getLast?_singleton] at hlast
        have hcolon := congrArg String.toList (Option.some.inj hlast)
        rw [toList_append_colon] at hcolon
        have hends := congrArg List.getLast? hcolon
        rw [List.getLast?_concat] at hends
        exact absurd hends (by decide)
      · rw [hempty] at hroot
        cases hroot
    · split at haddressed
      · rename_i hroot
        obtain ⟨rest, rfl⟩ := List.head?_eq_some_iff.mp hroot
        rw [List.tail_cons] at haddressed
        rcases List.eq_nil_or_concat' rest with rfl | ⟨way', last', rfl⟩
        · cases haddressed
        · -- the kept names are those of the URL, encoded
          rw [← List.cons_append, ← List.append_assoc] at hresource
          obtain ⟨hway, hlast'⟩ := List.append_inj' hresource rfl
          rw [← hway] at hsublist hnotDot
          have hnames : way'.Sublist (names.map percentEncode) :=
            (List.cons_sublist_cons).mp ((List.append_sublist_append_left _).mp hsublist)
          obtain ⟨way, hwayNames, rfl⟩ := List.sublist_map_iff.mp hnames
          rw [List.singleton_inj.mp hlast'] at haddressed
          have hplace := namedPlace_urlSegments way last
          rw [urlSegments] at hplace
          rw [hplace] at haddressed
          refine ⟨way, (Option.some.inj haddressed).symm, hwayNames, ?_⟩
          intro name hname
          apply isDotSegment_percentEncode_eq_false.mp
          exact hnotDot _ (List.mem_append_right _
            (List.mem_cons_of_mem _ (List.mem_map_of_mem hname)))
      · cases haddressed
  · cases haddressed

theorem addressed_root : addressedPlace config (sentPath config (pathItemUrl (joinKey []))) =
    some [] := by
  have hroot : split '/' (pathItemUrl (joinKey [])) = ["root"] := by
    rw [joinKey_nil]
    decide +kernel
  have hplain : ∀ segment ∈ config.drivePath ++ ["root"], isDotSegment segment = false := by
    intro segment hsegment
    rcases List.mem_append.mp hsegment with hsegment | hsegment
    · exact config.driveResolved segment hsegment
    · rw [List.mem_singleton.mp hsegment]
      decide +kernel
  rw [sentPath, hroot, resolveDotSegments_of_forall_not_dot hplain, addressedPlace,
    if_pos (List.isPrefixOf_iff_prefix.mpr (List.prefix_append _ _)), List.drop_left]
  rfl

/-- The same, for a path of any segments: the drive root is the place of the empty path. -/
theorem addressed_place {segments place : List String} (h : AreSegments segments)
    (haddressed : addressedPlace config (sentPath config (pathItemUrl (joinKey segments))) =
      some place) :
    (segments = [] ∧ place = []) ∨ ∃ names last way, segments = names ++ [last] ∧
      place = way ++ [last] ∧ way.Sublist names ∧ ∀ name ∈ way, ¬ IsDotName name := by
  rcases List.eq_nil_or_concat' segments with rfl | ⟨names, last, rfl⟩
  · left
    rw [addressed_root] at haddressed
    exact ⟨rfl, (Option.some.inj haddressed).symm⟩
  · right
    obtain ⟨way, hplace, hway⟩ := addressed_shape h haddressed
    exact ⟨names, last, way, rfl, hplace, hway⟩

/-! ## Section 3: Writing and finding an object -/

theorem sentPath_pathUploadUrl (path : String) :
    sentPath config (pathUploadUrl path) = sentPath config (pathItemUrl path) ++ ["content"] := by
  have hurl : pathUploadUrl path = pathItemUrl path ++ "/" ++ "content" := by
    rw [pathUploadUrl, String.append_assoc]
    rfl
  have hcontent : split '/' "content" = ["content"] := by decide +kernel
  have hdot : isDotSegment "content" = false := by decide +kernel
  rw [sentPath, hurl, split_append, hcontent, ← List.append_assoc, resolveDotSegments,
    List.foldl_append, List.foldl_cons, List.foldl_nil, resolveSegment_of_not_dot hdot]
  rfl

/-- An accepted upload has written the body at the place that the item URL addresses. -/
theorem uploadContent_spec {tree tree' : FileTree B} {path : String} {body : B}
    {place : List String}
    (h : uploadContent config tree (pathUploadUrl path) body = some (tree', place)) :
    addressedPlace config (sentPath config (pathItemUrl path)) = some place ∧
      ∃ parent name, place = parent ++ [name] ∧ tree.writeFile parent name body = some tree' := by
  unfold uploadContent at h
  rw [sentPath_pathUploadUrl] at h
  simp only [List.getLast?_concat, if_true, List.dropLast_concat] at h
  obtain ⟨addressed, haddressed, hrest⟩ := Option.bind_eq_some_iff.mp h
  obtain ⟨name, hname, hwrite⟩ := Option.bind_eq_some_iff.mp hrest
  obtain ⟨written, hwritten, hpair⟩ := Option.map_eq_some_iff.mp hwrite
  obtain ⟨rfl, rfl⟩ := Prod.mk.inj hpair
  obtain ⟨parent, rfl⟩ := List.getLast?_eq_some_iff.mp hname
  rw [List.dropLast_concat] at hwritten
  exact ⟨haddressed, parent, name, rfl, hwritten⟩

theorem ensureEnabled_eq_ok : ensureEnabled config = .ok () ↔ config.enabled = true := by
  unfold ensureEnabled
  split
  · rename_i h
    exact ⟨fun _ => h, fun _ => rfl⟩
  · rename_i h
    exact ⟨(nomatch ·), fun henabled => absurd henabled h⟩

/-- What a successful upload has done: the body stands at the place that the object path
addresses, whose last name is the last segment of the path. -/
theorem putObject_spec {tree tree' : FileTree B} {container key : String} {body : B}
    {place : List String} (h : putObject config tree container key body = .ok (tree', place)) :
    config.enabled = true ∧ trim container ≠ "" ∧ trim key ≠ "" ∧
      addressedPlace config (sentPath config
        (pathItemUrl (joinKey (objectSegments config container key)))) = some place ∧
      ∃ names last way, objectSegments config container key = names ++ [last] ∧
        place = way ++ [last] ∧ way.Sublist names ∧ (∀ name ∈ way, ¬ IsDotName name) ∧
        ⟨way, last, some body⟩ ∈ tree'.items := by
  obtain ⟨_, henabled, h₁⟩ := except_bind_ok.mp h
  obtain ⟨path, hpath, h₂⟩ := except_bind_ok.mp h₁
  obtain ⟨prepared, -, h₃⟩ := except_bind_ok.mp h₂
  obtain ⟨hcontainer, hkey, rfl⟩ := objectPath_eq_ok.mp hpath
  split at h₃
  · rename_i uploaded hupload
    obtain rfl := Except.ok.inj h₃
    obtain ⟨haddressed, parent, name, hplace, hwrite⟩ := uploadContent_spec hupload
    refine ⟨ensureEnabled_eq_ok.mp henabled, hcontainer, hkey, haddressed, ?_⟩
    rcases addressed_place (areSegments_objectSegments container key) haddressed with
      ⟨-, hroot⟩ | ⟨names, last, way, hsegments, hway, hsublist, hdots⟩
    · rw [hroot] at hplace
      exact absurd hplace.symm (by simp)
    · obtain ⟨rfl, hlast⟩ := List.append_inj' (hplace.symm.trans hway) rfl
      obtain rfl := List.singleton_inj.mp hlast
      exact ⟨names, name, parent, hsegments, hway, hsublist, hdots, mem_writeFile hwrite⟩
  · cases h₃

/-- Every call on the pair of an object finds the item that its path addresses. -/
theorem resolveObject_of_mem {tree : FileTree B} {container key : String} {body : B}
    {way : List String} {last : String} (hcontainer : trim container ≠ "")
    (hkey : trim key ≠ "")
    (haddressed : addressedPlace config (sentPath config
      (pathItemUrl (joinKey (objectSegments config container key)))) = some (way ++ [last]))
    (hmem : ⟨way, last, some body⟩ ∈ tree.items) :
    resolveObject config tree container key = .ok (⟨way ++ [last], some body⟩, body) := by
  have hpath : objectPath config container key =
      .ok (joinKey (objectSegments config container key)) :=
    objectPath_eq_ok.mpr ⟨hcontainer, hkey, rfl⟩
  have hitem : getItemByPath config tree (joinKey (objectSegments config container key)) =
      some ⟨way ++ [last], some body⟩ := by
    rw [getItemByPath, normalizePath_joinKey (areSegments_objectSegments container key),
      haddressed, Option.bind_some, driveItemAt, if_neg (by simp), itemAt_of_mem hmem]
    rfl
  rw [resolveObject]
  refine except_bind_ok.mpr ⟨_, hpath, ?_⟩
  rw [hitem]
  rfl

/-- A folder on the way to an item is found by the path that spells it. -/
theorem resolveContainerFolder_of_mem {tree : FileTree B} {container : String} {item : Item B}
    (hcontainer : trim container ≠ "") (hitem : item ∈ tree.items) {rest : List String}
    (hrest : rest ≠ []) (hplace : item.place = containerSegments config container ++ rest)
    (hdots : ∀ name ∈ (containerSegments config container).dropLast, ¬ IsDotName name) :
    resolveContainerFolder config tree container =
      .ok ⟨containerSegments config container, none⟩ := by
  have hpath : containerPath config container =
      .ok (joinKey (containerSegments config container)) :=
    containerPath_eq_ok.mpr ⟨hcontainer, rfl⟩
  have hfound : getItemByPath config tree (joinKey (containerSegments config container)) =
      some ⟨containerSegments config container, none⟩ := by
    have hsegments := @areSegments_containerSegments config container
    rw [getItemByPath, normalizePath_joinKey hsegments]
    rcases List.eq_nil_or_concat' (containerSegments config container) with
      hnil | ⟨names, last, hconcat⟩
    · rw [hnil, addressed_root]
      rfl
    · rw [hconcat] at hsegments hdots hplace ⊢
      rw [List.dropLast_concat] at hdots
      obtain ⟨ancestor, hancestor, hkind, hancestorPlace⟩ :=
        exists_ancestor hitem (hplace.trans (List.append_assoc _ _ _)) hrest
      have hfolder : tree.itemAt (names ++ [last]) = some ancestor :=
        itemAt_eq_some.mpr ⟨hancestor, hancestorPlace⟩
      rw [addressed_plain hsegments hdots, Option.bind_some, driveItemAt, if_neg (by simp),
        hfolder, Option.map_some]
      rw [Item.isFolder, Option.isNone_iff_eq_none] at hkind
      rw [hkind]
  rw [resolveContainerFolder]
  refine except_bind_ok.mpr ⟨_, hpath, ?_⟩
  rw [hfound]
  rfl

theorem plain_listing : (listing none).Plain where
  label_segment := by
    intro name want hname hlabel
    obtain rfl := Option.some.inj hlabel
    exact hname
  join_key := by
    intro segments want hsegments hwant
    change joinRelativeKey (joinKey segments) want = _
    unfold joinRelativeKey
    by_cases hnil : segments = []
    · subst hnil
      rw [if_pos joinKey_nil, List.nil_append, joinKey_singleton]
    · rw [if_neg (fun h => hnil ((joinKey_eq_empty hsegments).mp h)),
        joinKey_append hnil (List.cons_ne_nil _ _), joinKey_singleton]
      rfl
  all_folders := fun _ => rfl
  all_files := fun _ => rfl

/-- The calls of the adapter on a drive. -/
def oneDriveAdapter (config : OneDriveConfig) : BlobAdapter (FileTree B) (List String) B where
  putObject := putObject config
  headObject := headObject config
  getObject := getObject config
  deleteObject := deleteObject config
  listObjects := listObjects config
  remove := FileTree.removeAt
  Below := fun container place =>
    ∃ rest, rest ≠ [] ∧ place = containerSegments config container ++ rest

/-- The key is in normal form, and no segment before the last one is a dot name. -/
def PlainPath (config : OneDriveConfig) (container key : String) : Prop :=
  normalizePath key = key ∧
    ∀ name ∈ (objectSegments config container key).dropLast, ¬ IsDotName name

instance (container key : String) : Decidable (PlainPath config container key) :=
  inferInstanceAs (Decidable (_ ∧ _))

/-! ## Section 4: Faithful paths -/

theorem addressed_of_resolveContainerFolder {tree : FileTree B} {container : String}
    {folder : DriveItem B} (h : resolveContainerFolder config tree container = .ok folder) :
    addressedPlace config (sentPath config
      (pathItemUrl (joinKey (containerSegments config container)))) = some folder.place := by
  obtain ⟨path, hpath, h₁⟩ := except_bind_ok.mp h
  obtain ⟨-, rfl⟩ := containerPath_eq_ok.mp hpath
  split at h₁
  · cases h₁
  · rename_i item hitem
    obtain ⟨_, -, h₂⟩ := except_bind_ok.mp h₁
    obtain rfl := Except.ok.inj h₂
    rw [getItemByPath, normalizePath_joinKey (areSegments_containerSegments container)] at hitem
    obtain ⟨place, haddressed, hplace⟩ := Option.bind_eq_some_iff.mp hitem
    rw [haddressed]
    unfold driveItemAt at hplace
    split at hplace
    · rename_i hroot
      obtain rfl := Option.some.inj hplace
      rw [hroot]
    · obtain ⟨found, -, rfl⟩ := Option.map_eq_some_iff.mp hplace
      rfl

/-- What a listing of a container holds: the files that the loop finds from its folder. -/
theorem listObjects_all {tree : FileTree B} {container : String}
    {objects : List (ObjectInfo (List String))} :
    listObjects config tree (.all container) = .ok objects ↔
      config.enabled = true ∧ ∃ folder found, resolveContainerFolder config tree container =
        .ok folder ∧ walk (listing none) tree [(folder.place, "")] [] = .ok found ∧
        objects = (found.map (fun entry => ObjectInfo.mk entry.1 entry.2.place)).insertionSort
          (fun left right => left.key ≤ right.key) := by
  rw [listObjects, except_bind_ok]
  constructor
  · rintro ⟨_, henabled, h⟩
    obtain ⟨folder, hfolder, h₁⟩ := except_bind_ok.mp h
    obtain ⟨found, hfound, h₂⟩ := except_bind_ok.mp h₁
    exact ⟨ensureEnabled_eq_ok.mp henabled, folder, found, hfolder, hfound,
      (Except.ok.inj h₂).symm⟩
  · rintro ⟨henabled, folder, found, hfolder, hfound, rfl⟩
    refine ⟨(), ensureEnabled_eq_ok.mpr henabled, ?_⟩
    exact except_bind_ok.mpr ⟨folder, hfolder, except_bind_ok.mpr ⟨found, hfound, rfl⟩⟩

theorem mem_objects {found : List (String × Item B)} {info : ObjectInfo (List String)} :
    info ∈ (found.map (fun entry => ObjectInfo.mk entry.1 entry.2.place)).insertionSort
        (fun left right => left.key ≤ right.key) ↔
      ∃ entry ∈ found, entry.1 = info.key ∧ entry.2.place = info.item := by
  rw [(List.perm_insertionSort _ _).mem_iff, List.mem_map]
  constructor
  · rintro ⟨entry, hentry, rfl⟩
    exact ⟨entry, hentry, rfl, rfl⟩
  · rintro ⟨entry, hentry, hkey, hplace⟩
    exact ⟨entry, hentry, by rw [hkey, hplace]⟩

/-- The key of a listed file is the names below the folder that was listed. -/
theorem key_of_mem_walk {tree : FileTree B} {folder : List String}
    {found : List (String × Item B)}
    (h : walk (listing none) tree [(folder, "")] [] = .ok found) {entry : String × Item B}
    (hentry : entry ∈ found) :
    ∃ names, entry.2.place = folder ++ names ∧ AreSegments names ∧ entry.1 = joinKey names := by
  have hnil : AreSegments [] := fun _ hmem => absurd hmem List.not_mem_nil
  have hkeyed : Keyed [(folder, "")] := by
    intro top htop
    obtain rfl := List.mem_singleton.mp htop
    exact ⟨[], hnil, joinKey_nil.symm⟩
  rcases mem_walk plain_listing hkeyed h hentry with hmem | ⟨top, htop, segments, names, labels,
    hsegments, htopKey, -, -, hplace, -, hlabels, hkey, hall⟩
  · exact absurd hmem List.not_mem_nil
  · obtain rfl := List.mem_singleton.mp htop
    obtain rfl := joinKey_injective hsegments hnil (htopKey.symm.trans joinKey_nil.symm)
    obtain rfl : names = labels := List.map_injective_iff.mpr (Option.some_injective _) hlabels
    exact ⟨names, hplace, hall, hkey⟩

/-- The paths of a written object are faithful exactly when its path is plain, and then the
object stands where the path spells it. -/
theorem faithful_iff {tree tree' : FileTree B} {container key : String} {body : B}
    {place : List String} (h : putObject config tree container key body = .ok (tree', place)) :
    (oneDriveAdapter config).Faithful tree' container key body place ↔
      PlainPath config container key := by
  obtain ⟨henabled, hcontainer, hkey, haddressed, names, last, way, hsegments, rfl, hsublist,
    hdots, hmem⟩ := putObject_spec h
  have hresolved := resolveObject_of_mem hcontainer hkey haddressed hmem
  have hall := @areSegments_objectSegments config container key
  constructor
  · intro hfaithful
    obtain ⟨rest, hrest, hbelow⟩ := hfaithful.below
    obtain ⟨objects, hlist, hlisted, -⟩ := hfaithful.list
    obtain ⟨-, folder, found, hfolder, hfound, rfl⟩ := listObjects_all.mp hlist
    obtain ⟨entry, hentry, hentryKey, hentryPlace⟩ := mem_objects.mp hlisted
    obtain ⟨below, hplace, hbelowSegments, hentryName⟩ := key_of_mem_walk hfound hentry
    have hname : key = joinKey below := hentryKey.symm.trans hentryName
    -- the folder of the container lies on the way, so no dot name leads to it
    have hcontainerDots : ∀ name ∈ containerSegments config container, ¬ IsDotName name := by
      rcases List.eq_nil_or_concat' rest with rfl | ⟨others, other, rfl⟩
      · exact absurd rfl hrest
      · rw [← List.append_assoc] at hbelow
        obtain ⟨rfl, -⟩ := List.append_inj' hbelow rfl
        exact fun name hname => hdots name (List.mem_append_left _ hname)
    have hfolderPlace : folder.place = containerSegments config container := by
      have hfolderAddressed := addressed_of_resolveContainerFolder hfolder
      rcases List.eq_nil_or_concat' (containerSegments config container) with
        hnil | ⟨init, final, hconcat⟩
      · rw [hnil, addressed_root] at hfolderAddressed
        rw [hnil]
        exact (Option.some.inj hfolderAddressed).symm
      · have hcontainerAll := @areSegments_containerSegments config container
        rw [hconcat] at hfolderAddressed hcontainerAll hcontainerDots ⊢
        rw [addressed_plain hcontainerAll
          (fun name hname => hcontainerDots name (List.mem_append_left _ hname))]
          at hfolderAddressed
        exact (Option.some.inj hfolderAddressed).symm
    -- so the object stands where its path spells it, and the way to it has no dot name
    have hkeySegments : nonEmptySegments key = below := by
      rw [hname, nonEmptySegments_joinKey hbelowSegments]
    have hspelled : way ++ [last] = names ++ [last] := by
      calc way ++ [last] = entry.2.place := hentryPlace.symm
        _ = folder.place ++ below := hplace
        _ = objectSegments config container key := by
          rw [hfolderPlace, objectSegments, hkeySegments]
        _ = names ++ [last] := hsegments
    obtain ⟨rfl, -⟩ := List.append_inj' hspelled rfl
    refine ⟨?_, ?_⟩
    · rw [normalizePath, hkeySegments, ← hname]
    · rw [hsegments, List.dropLast_concat]
      exact hdots
  · rintro ⟨hnormal, hplain⟩
    rw [hsegments, List.dropLast_concat] at hplain
    have hplace := haddressed
    rw [hsegments] at hall hplace
    rw [addressed_plain hall hplain] at hplace
    obtain ⟨rfl, -⟩ := List.append_inj' (Option.some.inj hplace) rfl
    have hkeySegments : nonEmptySegments key ≠ [] := by
      intro hnil
      rw [normalizePath, hnil, joinKey_nil] at hnormal
      rw [← hnormal] at hkey
      exact hkey rfl
    have hspelled : names ++ [last] =
        containerSegments config container ++ nonEmptySegments key := hsegments.symm
    have hcontainerDots : ∀ name ∈ (containerSegments config container).dropLast,
        ¬ IsDotName name := by
      intro name hname
      apply hplain
      have hinit : names = containerSegments config container ++ (nonEmptySegments key).dropLast := by
        have hdropped := congrArg List.dropLast hspelled
        rw [List.dropLast_concat, List.dropLast_append_of_ne_nil hkeySegments] at hdropped
        exact hdropped
      rw [hinit]
      exact List.mem_append_left _ (List.dropLast_subset _ hname)
    have hfolder := resolveContainerFolder_of_mem hcontainer hmem hkeySegments hspelled
      hcontainerDots
    obtain ⟨found, hfound⟩ := @walk_ok_of_labelled B _ (listing none) tree'
      [(containerSegments config container, "")] [] (fun _ _ item _ _ _ _ => ⟨item.name, rfl⟩)
    have hlisted := walk_complete plain_listing hfound List.mem_cons_self
      (fun _ hmem => absurd hmem List.not_mem_nil) joinKey_nil.symm hmem hspelled hkeySegments
    obtain ⟨labels, hlabels, hfile⟩ := hlisted
    obtain rfl : nonEmptySegments key = labels :=
      List.map_injective_iff.mpr (Option.some_injective _) hlabels
    have hentry := hfile rfl
    rw [List.nil_append, ← normalizePath, hnormal] at hentry
    have hrun : ∀ {α : Type} (f : DriveItem B × B → α),
        (do
          ensureEnabled config
          let found ← resolveObject config tree' container key
          return f found : Except BlobError α) = .ok (f (⟨names ++ [last], some body⟩, body)) := by
      intro α f
      refine except_bind_ok.mpr ⟨(), ensureEnabled_eq_ok.mpr henabled, ?_⟩
      exact except_bind_ok.mpr ⟨_, hresolved, rfl⟩
    exact {
      below := ⟨_, hkeySegments, hspelled⟩
      head := ⟨_, hrun (fun found => ObjectInfo.mk (normalizePath key) found.1.place), rfl⟩
      get := ⟨_, hrun (fun found => (ObjectInfo.mk (normalizePath key) found.1.place, found.2)), rfl⟩
      delete := hrun (fun found => tree'.removeAt found.1.place)
      list := by
        refine ⟨_, listObjects_all.mpr ⟨henabled, _, found, hfolder, hfound, rfl⟩, ?_, ?_⟩
        · exact mem_objects.mpr ⟨_, hentry, rfl, rfl⟩
        · intro info hinfo hitem
          obtain ⟨entry, hentryMem, hentryKey, hentryPlace⟩ := mem_objects.mp hinfo
          obtain ⟨below, hbelow, -, hname⟩ := key_of_mem_walk hfound hentryMem
          have hsame : below = nonEmptySegments key := by
            apply @List.append_cancel_left _ (containerSegments config container)
            rw [← hbelow, hentryPlace, hitem, hspelled]
          rw [← hentryKey, hname, hsame, ← normalizePath, hnormal] }

/-- A plain object stands where its path spells it. -/
theorem place_of_plain {tree tree' : FileTree B} {container key : String} {body : B}
    {place : List String} (h : putObject config tree container key body = .ok (tree', place))
    (hplain : PlainPath config container key) : place = objectSegments config container key := by
  obtain ⟨-, -, -, haddressed, names, last, way, hsegments, rfl, -, -, -⟩ := putObject_spec h
  have hall := @areSegments_objectSegments config container key
  have hdots := hplain.2
  rw [hsegments] at haddressed hall hdots ⊢
  rw [List.dropLast_concat] at hdots
  rw [addressed_plain hall hdots] at haddressed
  exact (Option.some.inj haddressed).symm

end Netdisk2Blob.Providers.OneDrive
